import Provision.Catalog.Basic
import Provision.Choice.Basic
import Provision.Journal.Notice

/-!
# Which values a choice asks for

* `Setting.chosenValues`: the values of a choice for a setting with a value table.
* `Assignment`, `Setting.assignments`: the registry targets of one phase with the values they get.
-/

namespace Provision

/-- The setting that picks a power plan. -/
def powerPlanSetting : String := "power-plan-selection"

/-- The value name under which a table holds the index of a power setting. -/
def powerIndexKey : String := "PowerCfgValue"

/-- The values that a choice asks for: its own, or else the row of its index. -/
def Setting.chosenValues (s : Setting) (c : Choice) : Option Entries × List Notice :=
  match c.custom with
  | some values => (some values, [])
  | none =>
    match c.index with
    | none => (none, [.choiceMissing s.id])
    | some index =>
      if s.table.isEmpty then (none, [.tableMissing s.id])
      else
        match s.row? index with
        | some row => (some row, [])
        | none => (none, [.indexUnlisted index s.id])

/-- A registry target with the value it gets. -/
structure Assignment where
  target : Target
  value : Value

namespace Setting

/-- Whether a value name belongs to a registry target of the setting or to its power settings. -/
def isMatched (s : Setting) (key : Value) : Bool :=
  key.sameKey (.str powerIndexKey) || s.targets.any fun t => key.sameKey (.str t.lookupKey)

/-- The notices about values that belong to nothing. -/
def unmatched (s : Setting) (values : Entries) : List Notice :=
  (values.filter fun e => !s.isMatched e.1).map fun e => .valueUnmatched s.id e.1

/-- The targets that a set of values names, with their values. -/
def assignFrom (values : Entries) (targets : List Target) : List Assignment :=
  targets.filterMap fun t => (values.getText? t.lookupKey).map fun v => ⟨t, v⟩

/-- The targets of a toggle with their values: its own values come before on and off. -/
def assignToggle (c : Choice) (targets : List Target) : List Assignment :=
  targets.map fun t => ⟨t, ((c.custom.getD []).getText? t.lookupKey).getD (t.valueFor c.isOn)⟩

/-- The registry targets that a phase writes for a choice, in the order of the catalogue. -/
def assignments (s : Setting) (c : Choice) (phase : Phase) : List Assignment × List Notice :=
  let targets := s.targetsFor phase
  if c.kind = .powerPlan || s.id = powerPlanSetting || targets.isEmpty then ([], [])
  else if c.kind = .selection then
    let (values?, notices) := s.chosenValues c
    match values? with
    | none => ([], notices)
    | some values => (assignFrom values targets, notices ++ s.unmatched values)
  else (assignToggle c targets, [])

end Setting

end Provision
