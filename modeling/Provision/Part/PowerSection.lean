import Provision.Registry.Literal
import Provision.Resolution.Power
import Provision.Script.Fragment

/-!
# Power plans and power settings

* `PowerSection.steps?`: makes the chosen plan if it is missing, sets the collected values and
  activates the plan; nothing is written when there is neither plan nor value.
* `PowerSection.row`: one row of the table of values.
* `PowerSection.hiddenSettings`: makes the settings visible that are hidden by default.
-/

namespace Provision.PowerSection

/-- The stock plans that a new plan is copied from; the first that exists is taken. -/
def stockPlans : List (String × String) := [
  ("Ultimate Performance", "e9a42b02-d5df-448d-aa00-03f14749eb61"),
  ("High Performance", "8c5e7fda-e8bf-4a96-9a85-a6e23a8c635c"),
  ("Balanced", "381b4222-f694-41f0-9685-ff5bb260df2e")]

/-- Power settings that are hidden by default, each after its subgroup. -/
def hidden : List (String × String) := [
  ("2a737441-1930-4402-8d77-b2bebba308a3", "0853a681-27c8-4100-a2fd-82013e970683"),
  ("2a737441-1930-4402-8d77-b2bebba308a3", "d4e98f31-5ffe-4ce1-be31-1b38b384c009"),
  ("4f971e89-eebd-4455-a8de-9e59040e7347", "7648efa3-dd9c-4e3e-b566-50f929386280"),
  ("4f971e89-eebd-4455-a8de-9e59040e7347", "96996bc0-ad50-47ec-923b-6f41874dd9eb"),
  ("4f971e89-eebd-4455-a8de-9e59040e7347", "5ca83367-6e45-459f-a27b-476b1d01c936"),
  ("54533251-82be-4824-96c1-47b60b740d00", "94d3a615-a899-4ac5-ae2b-e4d8f634367f"),
  ("54533251-82be-4824-96c1-47b60b740d00", "be337238-0d82-4146-a960-4f3749d470c7"),
  ("54533251-82be-4824-96c1-47b60b740d00", "465e1f50-b610-473a-ab58-00d1077dc418"),
  ("54533251-82be-4824-96c1-47b60b740d00", "40fbefc7-2e9d-4d25-a185-0cfd8574bac6"),
  ("54533251-82be-4824-96c1-47b60b740d00", "0cc5b647-c1df-4637-891a-dec35c318583"),
  ("54533251-82be-4824-96c1-47b60b740d00", "ea062031-0e34-4ff1-9b6d-eb1059334028"),
  ("54533251-82be-4824-96c1-47b60b740d00", "36687f9e-e3a5-4dbf-b1dc-15eb381c6863"),
  ("54533251-82be-4824-96c1-47b60b740d00", "06cadf0e-64ed-448a-8927-ce7bf90eb35d"),
  ("54533251-82be-4824-96c1-47b60b740d00", "12a0ab44-fe28-4fa9-b3bd-4b64f44960a6")]

/-- The key that holds the power settings. -/
def settingsKey : String := "HKLM:\\SYSTEM\\CurrentControlSet\\Control\\Power\\PowerSettings"

/-- Rows with a comma after each but the last. -/
def withCommas : List String → List String
  | [] => []
  | [row] => [row]
  | row :: rows => (row ++ ",") :: withCommas rows

/-- The name of a plan inside a literal; a name that is set has to be a text. -/
def escapedName (v : Value) : Except Misfit String :=
  if !v.isTruthy then .ok ""
  else
    match v with
    | .str s => .ok (Literal.escape s)
    | .bytes _ => .error .wrongKind
    | .day _ => .error .wrongKind
    | .moment _ => .error .wrongKind
    | _ => .error .lacksPart

/-- Makes the plan, unless it exists; `name` is the escaped name. -/
def creationText (plan : PlanChoice) (name : String) : Fragment :=
  ["Write-Log 'Setting up power plan: " ++ name ++ "...' 'INFO'",
   "$customPlanGuid = " ++ Literal.quoteValue plan.guid,
   "$null = powercfg /query $customPlanGuid 2>&1"] ++
  Fragment.branches [
    ("if ($LASTEXITCODE -eq 0)",
      ["Write-Log 'Power plan already exists, using existing plan' 'INFO'"]),
    ("else",
      ["$planCreated = $false"] ++
      Fragment.list "$sourceSchemes = @" (withCommas (stockPlans.map fun p =>
        "@\x7b Name = '" ++ p.1 ++ "'; Guid = '" ++ p.2 ++ "' \x7d")) ++
      Fragment.scope "foreach ($scheme in $sourceSchemes)"
        (["$null = powercfg /duplicatescheme $scheme.Guid $customPlanGuid 2>&1"] ++
         Fragment.scope "if ($LASTEXITCODE -eq 0)"
           ["Write-Log \"Created power plan from $($scheme.Name)\" \"SUCCESS\"",
            "powercfg /changename $customPlanGuid " ++ Literal.quoteValue plan.name ++
              " | Out-Null",
            "$planCreated = $true",
            "break"]) ++
      Fragment.scope "if (-not $planCreated)"
        ["Write-Log 'Failed to create power plan' 'ERROR'"])] ++
  [""]

/-- The text that makes hidden settings visible. -/
def hiddenSettingsText : Fragment :=
  ["Write-Log 'Enabling hidden power settings...' 'INFO'",
   "$powerSettingsBasePath = '" ++ settingsKey ++ "'"] ++
  Fragment.list "$hiddenSettings = @" (withCommas (hidden.map fun p =>
    "@\x7b Subgroup = '" ++ p.1 ++ "'; Setting = '" ++ p.2 ++ "' \x7d")) ++
  ["$enabledCount = 0"] ++
  Fragment.scope "foreach ($item in $hiddenSettings)"
    (["$regPath = Join-Path $powerSettingsBasePath \"$($item.Subgroup)\\$($item.Setting)\""] ++
     Fragment.branches [
       ("try",
         Fragment.scope "if (Test-Path $regPath)"
           ["Set-ItemProperty -Path $regPath -Name 'Attributes' -Value 0 -Type DWord " ++
              "-ErrorAction Stop",
            "$enabledCount++"]),
       ("catch",
         ["Write-Log \"Could not unhide $($item.Setting): $($_.Exception.Message)\" " ++
            "\"WARNING\""])]) ++
  ["Write-Log \"Enabled $enabledCount hidden power settings\" \"SUCCESS\""] ++
  [""]

/-- Makes hidden settings visible. -/
def hiddenSettings : List Step := hiddenSettingsText.steps

/-- One row of the table of values. -/
def row (v : PowerValue) : String :=
  "@\x7b S='" ++ v.subgroup ++ "'; G='" ++ v.setting ++ "'; AC=" ++ toString v.ac ++ "; DC=" ++
    toString v.dc ++ "; N=" ++ Literal.quote v.description ++ " \x7d"

/-- The plan that values are set in: the chosen one, or else the active one. -/
def planExpression (plan : Option PlanChoice) : String :=
  match plan with
  | some p => if p.guid.isTruthy then Literal.quoteValue p.guid else Literal.quote "SCHEME_CURRENT"
  | none => Literal.quote "SCHEME_CURRENT"

/-- The text that sets all values of the table. -/
def applyText : Fragment :=
  ["$appliedCount = 0"] ++
  Fragment.scope "foreach ($setting in $powerSettings)"
    (["powercfg /setacvalueindex $targetPlanGuid $setting.S $setting.G $setting.AC 2>$null"] ++
     Fragment.scope "if ($LASTEXITCODE -ne 0)"
       ["Write-Log \"Failed to set AC value: $($setting.N)\" \"WARNING\"",
        "continue"] ++
     ["powercfg /setdcvalueindex $targetPlanGuid $setting.S $setting.G $setting.DC 2>$null"] ++
     Fragment.branches [
       ("if ($LASTEXITCODE -eq 0)",
         ["$appliedCount++"]),
       ("else",
         ["Write-Log \"Failed to set DC value: $($setting.N)\" \"WARNING\""])]) ++
  ["Write-Log \"Applied $appliedCount power settings\" \"SUCCESS\""] ++
  [""]

/-- The table of values and what sets them. -/
def valueSteps (values : List PowerValue) (plan : Option PlanChoice) : List Step :=
  [.line "Write-Log 'Applying power settings...' 'INFO'", .line "$powerSettings = @(",
    .indented 1 ((withCommas (values.map row)).map Step.line), .line ")",
    .line ("$targetPlanGuid = " ++ planExpression plan)] ++ applyText.steps

/-- The text that activates a plan. -/
def activationText (plan : PlanChoice) : Fragment :=
  ["Write-Log 'Activating power plan...' 'INFO'",
   "powercfg /setactive " ++ Literal.quoteValue plan.guid ++ " 2>$null"] ++
  Fragment.branches [
    ("if ($LASTEXITCODE -eq 0)",
      ["Write-Log 'Power plan activated successfully' 'SUCCESS'"]),
    ("else",
      ["Write-Log 'Failed to activate power plan' 'WARNING'"])] ++
  [""]

/-- What is written for a plan and the collected values, if anything is. -/
def steps? (plan : Option PlanChoice) (values : List PowerValue) :
    Except Misfit (Option (List Step)) := do
  if plan.isNone && values.isEmpty then return none
  let creation ←
    match plan with
    | some p => do
      let name ← escapedName p.name
      if !p.guid.isWritable then throw .wrongContent
      pure (creationText p name).steps
    | none => pure []
  if !values.all PowerValue.isWritable then throw .wrongContent
  let settings := if values.isEmpty then [] else hiddenSettings ++ valueSteps values plan
  let activation :=
    match plan with
    | some p => (activationText p).steps
    | none => []
  return some (.banner "POWER PLAN & POWERCFG SETTINGS" :: creation ++ settings ++ activation)

end Provision.PowerSection
