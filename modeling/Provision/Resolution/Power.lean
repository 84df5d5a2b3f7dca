import Provision.Journal.Draft
import Provision.Power.Snapshot
import Provision.Resolution.Values

/-!
# Power values

* `PlanChoice`, `Choice.plan?`: the power plan that a choice asks for.
* `PowerStatement`, `Setting.powerStatements`: the power settings that a row of values asks for.
* `PowerValue`, `collectReadings`: the power settings of a feature with the readings of a machine.
-/

namespace Provision

/-- The power plan to make, if it is missing, and to activate. -/
structure PlanChoice where
  guid : Value
  name : Value

/-- The power plan that a choice asks for. -/
def Choice.plan? (c : Choice) : Option PlanChoice :=
  if c.planGuid.isTruthy then
    some ⟨c.planGuid, if c.planName.isTruthy then c.planName else c.planGuid⟩
  else none

/-! ## From value tables -/

/-- Mains or battery. -/
inductive PowerSide where
  | ac
  | dc
deriving DecidableEq, Repr

/-- The command that sets one side of a power setting in the active plan. -/
structure PowerStatement where
  side : PowerSide
  target : PowerTarget
  index : Int
deriving DecidableEq, Repr

/-- The line of the script that gives the command. -/
def PowerStatement.text (p : PowerStatement) : String :=
  (match p.side with
    | .ac => "powercfg /setacvalueindex"
    | .dc => "powercfg /setdcvalueindex") ++
    " SCHEME_CURRENT " ++ p.target.subgroup ++ " " ++ p.target.setting ++ " " ++ toString p.index

/-- The commands that give an index to a power setting: one for each side it has. -/
def PowerTarget.statements (index : Int) (t : PowerTarget) : List PowerStatement :=
  match t.sides with
  | .separate => [⟨.ac, t, index⟩, ⟨.dc, t, index⟩]
  | .combined => [⟨.ac, t, index⟩]

/-- The power index that a row of values holds; what is no number counts as absent. -/
def powerIndex? (values : Entries) : Except Misfit (Option Int) :=
  match values.field powerIndexKey with
  | .null => .ok none
  | v =>
    match v.toInteger with
    | .ok n => .ok (some n)
    | .error .infinite => .error .infinite
    | .error _ => .ok none

/-- The commands that a row of values asks for. -/
def Setting.powerStatements (s : Setting) (values : Entries) :
    Except Misfit (List PowerStatement) :=
  if s.power.isEmpty then .ok []
  else do
    match ← powerIndex? values with
    | none => return []
    | some index =>
      if Numeral.fits index then return s.power.flatMap (PowerTarget.statements index)
      else throw .wrongContent

/-! ## From readings -/

/-- A power setting with the indexes it gets on both sides. -/
structure PowerValue where
  subgroup : String
  setting : String
  ac : Int
  dc : Int
  description : String
deriving DecidableEq, Repr

/-- Whether both indexes of a power setting can be written. -/
def PowerValue.isWritable (v : PowerValue) : Bool := Numeral.fits v.ac && Numeral.fits v.dc

/-- Readings by GUID in lower case. -/
def Readings.folded (rs : Readings) : Readings :=
  Readings.ofList (rs.map fun e => (Text.lower e.1, e.2))

/-- The value of one power setting, unless a side is unknown. -/
def collectTarget (s : Setting) (lookup : Readings) (t : PowerTarget) : Draft PowerValue Unit :=
  match lookup.get? (Text.lower t.setting) with
  | some r =>
    if r.ac.isNull || r.dc.isNull then .report [.readingMissing s.id t.setting]
    else do
      let ac ← Draft.lift r.ac.toInteger
      let dc ← Draft.lift r.dc.toInteger
      Draft.write [⟨t.subgroup, t.setting, ac, dc, s.description⟩]
  | none => .report [.readingMissing s.id t.setting]

/-- The power values of one setting; what depends on brightness is left out, and what depends on a
battery is left out when there is none. -/
def collectSetting (lookup : Readings) (hasBattery : Bool) (s : Setting) : Draft PowerValue Unit :=
  if s.id = powerPlanSetting || s.power.isEmpty then .write []
  else if s.needsBrightness then .report [.brightnessGated s.id]
  else if s.needsBattery && !hasBattery then .report [.batteryGated s.id]
  else .each (collectTarget s lookup) s.power

/-- The power values of settings, in the order of the catalogue. -/
def collectReadings (settings : List Setting) (rs : Readings) (hasBattery : Bool) :
    Draft PowerValue Unit :=
  let d := Draft.each (collectSetting rs.folded hasBattery) settings
  d.bind fun _ => .report [.readingsCollected d.items.length]

end Provision
