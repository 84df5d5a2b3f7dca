import Provision.Machine.Basic
import Provision.Number.Numeral
import Provision.Power.Listing

/-!
# Services

* `Services`: what a compilation asks of the machine: the active plan, its readings, the battery.
* `Services.fixed`: answers from a snapshot.
* `LiveServices`: answers from `powercfg` and PowerShell.
* `Call`: the questions, for recording in which order they are asked.
-/

namespace Provision

/-- A question that a compilation asks. -/
inductive Call where
  | activePlan
  | readings (plan : String)
  | hasBattery
  | check (script : String)
deriving DecidableEq, Repr

/-- What a compilation asks of a machine. -/
structure Services (σ : Type) where
  activePlan : Action σ (Option Plan)
  readings : String → Action σ Readings
  hasBattery : Action σ Bool

/-- Answers from a snapshot, after `note` has taken the question down. The readings are the same for
every plan. -/
def Services.fixed {σ : Type} (note : Call → σ → σ) (s : Snapshot) : Services σ where
  activePlan := do
    Action.change (note .activePlan)
    return s.plan
  readings plan := do
    Action.change (note (.readings plan))
    return s.readings
  hasBattery := do
    Action.change (note .hasBattery)
    return s.hasBattery

/-- A program and how many seconds it may take. -/
structure Tool where
  executable : String
  limit : Int
deriving DecidableEq, Repr

/-- The programs that answer from the running machine. -/
structure LiveServices where
  /-- `powercfg`. -/
  power : Tool
  /-- PowerShell. -/
  hardware : Tool
deriving DecidableEq, Repr

namespace LiveServices

/-- The usual tool for power settings. -/
def powerTool : Tool := ⟨"powercfg", 30⟩

/-- The usual tool for the hardware, with a given PowerShell. -/
def hardwareTool (powerShell : String) : Tool := ⟨powerShell, 30⟩

/-- The usual PowerShell. -/
def powerShell : String := "powershell"

/-- The output of `powercfg` with the given arguments. -/
def powerOutput (t : Tool) (arguments : List String) : Action Machine String := do
  let command := t.executable :: arguments
  Action.report [.commandRun command]
  match ← Machine.output command t.limit with
  | .ok output => return output
  | .error (.notFound _) => Action.fail (.breakdown (.executableMissing t.executable))
  | .error (.exitStatus _ status) => Action.fail (.breakdown (.exitStatus arguments status))
  | .error (.timedOut _ limit) => Action.fail (.breakdown (.timedOut arguments limit))

/-- The active plan of the running machine. -/
def activePlan (t : Tool) : Action Machine (Option Plan) := do
  return Listing.plan? (← powerOutput t ["/getactivescheme"])

/-- The readings of a plan on the running machine. -/
def readings (t : Tool) (plan : String) : Action Machine Readings := do
  let rs := Listing.readings (← powerOutput t ["/qh", plan])
  Action.report [.settingsRead rs.length plan]
  return rs

/-- What PowerShell runs to count the batteries. -/
def batteryQuery : String := "@(Get-CimInstance -ClassName Win32_Battery).Count"

/-- The number in the output of the battery query; no output is zero. -/
def batteryCount? (output : String) : Option Int :=
  Numeral.decimal? (if output = "" then "0" else output)

/-- Whether the running machine has a battery; it counts as having none if that cannot be found
out. -/
def hasBattery (t : Tool) : Action Machine Bool := do
  let command := [t.executable, "-NoProfile", "-NonInteractive", "-Command", batteryQuery]
  match ← Machine.output command t.limit with
  | .error f =>
    Action.report [.batteryQueryFailed f.message]
    return false
  | .ok output =>
    let output := Text.trim output
    match batteryCount? output with
    | none =>
      Action.report [.batteryOutputOdd output]
      return false
    | some count =>
      Action.report [.batteriesFound count]
      return count > 0

/-- The answers from the running machine. -/
def services (l : LiveServices) : Services Machine where
  activePlan := activePlan l.power
  readings := readings l.power
  hasBattery := hasBattery l.hardware

end LiveServices

end Provision
