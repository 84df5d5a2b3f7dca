import Provision.Document.Shape
import Provision.Removal.Item

/-!
# The user's choices

* `Choice`: what the user chose for one setting.
* `ChoiceSection`, `ChoiceGroup`: the choices of a feature, and a named collection of features.
* `Configuration`: the two groups and the apps to remove.
-/

namespace Provision

/-- The choice for one setting. -/
structure Choice where
  id : String
  kind : InputKind
  /-- On or off, as the document has it. -/
  isSelected : Value
  /-- The chosen row of the setting's value table. -/
  index : Option Int
  /-- Values that take the place of the value table; never empty. -/
  custom : Option Entries
  planGuid : Value
  planName : Value

namespace Choice

/-- Whether the setting is turned on. -/
def isOn (c : Choice) : Bool := c.isSelected.isTruthy

end Choice

/-- The choices for one feature. -/
structure ChoiceSection where
  feature : String
  items : List Choice
  isIncluded : Bool

/-- The first choice for a setting. -/
def ChoiceSection.find? (s : ChoiceSection) (setting : String) : Option Choice :=
  s.items.find? fun c => c.id == setting

/-- A named collection of features. -/
structure ChoiceGroup where
  name : String
  sections : List ChoiceSection

/-- The first section of a feature. -/
def ChoiceGroup.find? (g : ChoiceGroup) (feature : String) : Option ChoiceSection :=
  g.sections.find? fun s => s.feature == feature

/-- Everything the user chose. -/
structure Configuration where
  optimize : ChoiceGroup
  customize : ChoiceGroup
  removals : List RemovalItem

/-- The groups in the order in which they are written. -/
def Configuration.groups (c : Configuration) : List ChoiceGroup := [c.optimize, c.customize]

end Provision
