import Provision.Document.Loading
import Provision.Removal.Plan
import Provision.Resolution.Values

/-!
# Inspecting a configuration

* `Finding`: what can be wrong or odd about a configuration, seen against a catalogue.
* `Inspection.findings`: all that is found.
* `inspectFiles`: loads both documents and inspects them; a refused document is a finding.
-/

namespace Provision

/-- Something about a configuration. A place is a group and a feature in it. -/
inductive Finding where
  | catalogRefused (p : Problem)
  | configurationRefused (p : Problem)
  | featureUnknown (place : String)
  | planGuidMissing (place item : String)
  | settingUnknown (place item : String)
  | indexMissing (place item : String)
  | indexUnlisted (place item : String) (index : Int)
  | removalNameless (position : Nat) (item : String)
  | sectionEmpty (place : String)
  | settingIdle (place item : String)

namespace Finding

/-- Whether a finding is an error; the others are warnings. -/
def isError : Finding → Bool
  | sectionEmpty _ => false
  | settingIdle _ _ => false
  | _ => true

/-- Whether a finding can be worded; a number with too many digits cannot. -/
def isWritable : Finding → Bool
  | indexUnlisted _ _ index => Numeral.fits index
  | _ => true

/-- The wording of a finding. -/
def message : Finding → String
  | catalogRefused p => "Catalog: " ++ p.message
  | configurationRefused p => "Configuration: " ++ p.message
  | featureUnknown place => place ++ ": unknown feature"
  | planGuidMissing place item => place ++ "." ++ item ++ ": powerPlanGuid is required"
  | settingUnknown place item => place ++ ": unknown setting id " ++ Text.quoted item
  | indexMissing place item => place ++ "." ++ item ++ ": selection has no selectedIndex"
  | indexUnlisted place item index =>
    place ++ "." ++ item ++ ": selectedIndex " ++ toString index ++
      " has no entry in the value table"
  | removalNameless position item =>
    "windows_apps.items[" ++ toString position ++ "] (" ++ item ++ "): no package name"
  | sectionEmpty place => place ++ ": included but has no items"
  | settingIdle place item => place ++ "." ++ item ++ ": setting has no targets"

end Finding

/-- The outcome of an inspection. -/
structure Inspection where
  findings : List Finding
  /-- How many items were looked at. -/
  settings : Nat
  config : Path

namespace Inspection

/-- The wording of the errors, in order. -/
def errors (i : Inspection) : List String :=
  (i.findings.filter Finding.isError).map Finding.message

/-- The wording of the warnings, in order. -/
def warnings (i : Inspection) : List String :=
  (i.findings.filter fun f => !f.isError).map Finding.message

/-- Whether there are no errors. -/
def isValid (i : Inspection) : Bool := !i.findings.any Finding.isError

/-- The word for the outcome. -/
def status (i : Inspection) : String := if i.isValid then "valid" else "invalid"

/-- What there is about the row that an item selects. -/
def ofRow (place : String) (s : Setting) (item : Choice) : List Finding :=
  if item.kind ≠ .selection ∨ item.custom.isSome then []
  else
    match item.index with
    | none => [.indexMissing place item.id]
    | some index => if (s.row? index).isSome then [] else [.indexUnlisted place item.id index]

/-- What there is about an item of a known feature. -/
def ofItem (catalog : Catalog) (feature place : String) (item : Choice) : List Finding :=
  if item.id = powerPlanSetting then
    if item.planGuid.isTruthy then [] else [.planGuidMissing place item.id]
  else
    match catalog.find? feature item.id with
    | none => [.settingUnknown place item.id]
    | some s =>
      (if s.hasTargets then [] else [.settingIdle place item.id]) ++ ofRow place s item

/-- The place of a section of a group. -/
def placeOf (group : String) (s : ChoiceSection) : String :=
  Text.lower group ++ "." ++ s.feature

/-- What there is about a section of a group. -/
def ofSection (catalog : Catalog) (group : String) (s : ChoiceSection) : List Finding :=
  let place := placeOf group s
  if !s.isIncluded then []
  else if s.items.isEmpty then [.sectionEmpty place]
  else if (catalog.settings? s.feature).isNone then [.featureUnknown place]
  else s.items.flatMap (ofItem catalog s.feature place)

/-- How many items of a section are looked at. -/
def countOf (catalog : Catalog) (s : ChoiceSection) : Nat :=
  if s.isIncluded && (catalog.settings? s.feature).isSome then s.items.length else 0

/-- What there is about the apps to remove. -/
def ofRemovals (position : Nat) : List RemovalItem → List Finding
  | [] => []
  | item :: items =>
    let here :=
      if item.name = "" ∧ item.id ≠ RemovalPlan.edgeItem ∧ item.id ≠ RemovalPlan.oneDriveItem then
        [.removalNameless position item.id]
      else []
    here ++ ofRemovals (position + 1) items

/-- All that there is about a configuration. -/
def ofDocuments (catalog : Catalog) (config : Configuration) : List Finding :=
  config.groups.flatMap (fun g => g.sections.flatMap (ofSection catalog g.name)) ++
    ofRemovals 0 config.removals

/-- How many items of a configuration are looked at. -/
def settingCount (catalog : Catalog) (config : Configuration) : Nat :=
  (config.groups.flatMap ChoiceGroup.sections).foldl (fun n s => n + countOf catalog s) 0

/-- Says lines to the user if asked to. -/
def narrate (verbose : Bool) (lines : List String) : Action Machine Unit :=
  if verbose then Action.say lines else pure ()

/-- Ends an inspection with its outcome. -/
def conclude (verbose : Bool) (i : Inspection) : Action Machine Inspection := do
  narrate verbose
    [if i.isValid then "  [OK] Configuration is valid!"
      else "  [ERROR] Configuration has " ++ toString i.errors.length ++ " error(s)"]
  return i

/-- Reads a document; that it is refused is no failure. -/
def caught {α : Type} (x : Action Machine α) : Action Machine (Except Problem α) := do
  match ← Action.attempt x with
  | .ok a => return .ok a
  | .error (.problem p) => return .error p
  | .error f => Action.fail f

end Inspection

open Inspection in
/-- Loads a configuration and its catalogue and inspects them. -/
def inspectFiles (config catalog : Path) (verbose : Bool) : Action Machine Inspection := do
  narrate verbose ["Validating configuration: " ++ config.text]
  match ← caught (loadCatalog catalog) with
  | .error p => conclude verbose ⟨[.catalogRefused p], 0, config⟩
  | .ok c => do
    narrate verbose ["  [OK] Catalog loaded: " ++ toString c.features.length ++ " feature(s)"]
    match ← caught (loadConfiguration config) with
    | .error p => conclude verbose ⟨[.configurationRefused p], 0, config⟩
    | .ok choices => do
      narrate verbose ["  [OK] Configuration syntax is valid"]
      let found := ofDocuments c choices
      let count := settingCount c choices
      if !found.all Finding.isWritable then Action.fail (.misfit .wrongContent)
      narrate verbose ["  [OK] Checked " ++ toString count ++ " setting(s)"]
      conclude verbose ⟨found, count, config⟩

end Provision
