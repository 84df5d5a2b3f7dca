import Provision.Document.Shape
import Provision.Registry.Target

/-!
# The setting catalogue

* `Setting`: one setting: the registry targets, tasks, registry files and power settings it drives,
  and its table of values by index.
* `Feature`, `Catalog`: settings by feature, in the order of the catalogue.
* `Catalog.settings?`, `Catalog.find?`, `Catalog.displayName`: lookup by feature, and the name of a
  feature in titles.
-/

namespace Provision

/-- The content of a registry file for on and for off, as the catalogue has it. -/
structure Payload where
  enabled : Value
  disabled : Value

/-- The content for on or off. -/
def Payload.contentFor (p : Payload) (on : Bool) : Value := if on then p.enabled else p.disabled

/-- Whether a power setting has values of its own for mains and battery. -/
inductive PowerSides where
  | separate
  | combined
deriving DecidableEq, Repr

/-- The word for the sides of a power setting. -/
def PowerSides.name : PowerSides → String
  | separate => "separate"
  | combined => "combined"

/-- A power setting and the subgroup it belongs to. -/
structure PowerTarget where
  subgroup : String
  setting : String
  sides : PowerSides
deriving DecidableEq, Repr

/-- One customisable setting. -/
structure Setting where
  id : String
  description : String
  inputKind : InputKind
  targets : List Target
  tasks : List String
  payloads : List Payload
  power : List PowerTarget
  table : List (Int × Entries)
  needsBattery : Bool
  needsBrightness : Bool

namespace Setting

/-- A setting that drives power settings and no registry target. -/
def isPowerOnly (s : Setting) : Bool := !s.power.isEmpty && s.targets.isEmpty

/-- A setting that drives anything at all. -/
def hasTargets (s : Setting) : Bool :=
  !s.targets.isEmpty || !s.tasks.isEmpty || !s.payloads.isEmpty || !s.power.isEmpty

/-- The registry targets that a phase writes. -/
def targetsFor (s : Setting) (phase : Phase) : List Target :=
  s.targets.filter fun t => t.phase == phase

/-- The row of the value table at an index. -/
def row? (s : Setting) (index : Int) : Option Entries :=
  Table.get? (· == index) s.table

end Setting

/-- A feature with its settings; `id` is the key the catalogue gives it. -/
structure Feature where
  id : Value
  name : String
  settings : List Setting

/-- All features. -/
structure Catalog where
  features : List Feature

namespace Catalog

/-- The feature with a given name as its key. -/
def feature? (c : Catalog) (id : String) : Option Feature :=
  c.features.find? fun f => f.id.sameKey (.str id)

/-- The settings of a feature. -/
def settings? (c : Catalog) (feature : String) : Option (List Setting) :=
  (c.feature? feature).map Feature.settings

/-- The first setting of a feature with a given name. -/
def find? (c : Catalog) (feature setting : String) : Option Setting :=
  ((c.settings? feature).getD []).find? fun s => s.id == setting

/-- The title of a feature; an unknown one goes by its key. -/
def displayName (c : Catalog) (feature : String) : String :=
  (match c.feature? feature with
    | some f => f.name
    | none => feature) ++ " Settings"

/-- How many settings there are. -/
def settingCount (c : Catalog) : Nat := c.features.foldl (fun n f => n + f.settings.length) 0

end Catalog

end Provision
