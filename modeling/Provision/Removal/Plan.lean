import Provision.Journal.Notice
import Provision.Removal.Item
import Provision.Text.Case

/-!
# Sorting what is to be removed

* `RemovalPlan`: packages, capabilities, optional features and special apps, each once and in the
  order of first mention, and whether the browser and the file synchronisation go.
* `RemovalPlan.ofItems`: the plan for a list of items, with a notice for every item without a name.
-/

namespace Provision

/-- What the removal script has to do. -/
structure RemovalPlan where
  packages : List String
  capabilities : List String
  features : List String
  special : List String
  edge : Bool
  oneDrive : Bool
deriving DecidableEq, Repr

namespace RemovalPlan

/-- Nothing to remove. -/
def empty : RemovalPlan := ⟨[], [], [], [], false, false⟩

/-- The item that stands for the browser. -/
def edgeItem : String := "windows-app-edge"

/-- The item that stands for the file synchronisation. -/
def oneDriveItem : String := "windows-app-onedrive"

/-- The packages, in lower case, whose removal leaves game recording on. -/
def overlayPackages : List String :=
  ["microsoft.gamingapp", "microsoft.xboxgamingoverlay", "microsoft.xboxgameoverlay"]

/-- The plan lists anything by name. -/
def hasGeneric (p : RemovalPlan) : Bool :=
  !(p.packages.isEmpty && p.capabilities.isEmpty && p.features.isEmpty && p.special.isEmpty)

/-- There is nothing to remove. -/
def isEmpty (p : RemovalPlan) : Bool := !p.hasGeneric && !p.edge && !p.oneDrive

/-- A package goes whose removal leaves game recording on. -/
def includesOverlay (p : RemovalPlan) : Bool :=
  p.packages.any fun name => overlayPackages.contains (Text.lower name)

/-- Adds a name at the end, unless it is empty or there already. -/
def addName (names : List String) (name : String) : List String :=
  if name = "" || names.contains name then names else names ++ [name]

/-- Whether a name contains a text, in any letter case. -/
def mentions (name part : String) : Bool :=
  Text.occursIn part.toList (Text.lower name).toList

/-- Adds an item with a name. -/
def addNamed (p : RemovalPlan) (item : RemovalItem) : RemovalPlan :=
  match item.kind with
  | .capability => { p with capabilities := addName p.capabilities item.name }
  | .optionalFeature => { p with features := addName p.features item.name }
  | .package =>
    { p with
      packages := item.subPackages.foldl addName (addName p.packages item.name)
      special := if mentions item.name "onenote" then addName p.special "OneNote" else p.special }

/-- Adds an item; one without a name is passed over with a notice. -/
def add (p : RemovalPlan) (item : RemovalItem) : RemovalPlan × List Notice :=
  if item.id = edgeItem then ({ p with edge := true }, [])
  else if item.id = oneDriveItem then ({ p with oneDrive := true }, [])
  else if item.name = "" then (p, [.removalNameless item.id])
  else (p.addNamed item, [])

/-- Adds items in order. -/
def addAll (p : RemovalPlan) : List RemovalItem → RemovalPlan × List Notice
  | [] => (p, [])
  | item :: items =>
    let (p, notices) := p.add item
    let (p, more) := addAll p items
    (p, notices ++ more)

theorem addAll_append (p : RemovalPlan) (items more : List RemovalItem) :
    p.addAll (items ++ more) =
      (((p.addAll items).1.addAll more).1,
        (p.addAll items).2 ++ ((p.addAll items).1.addAll more).2) := by
  induction items generalizing p with
  | nil => simp [addAll]
  | cons item items ih => simp [addAll, ih]

/-- The plan for a list of items. -/
def ofItems (items : List RemovalItem) : RemovalPlan × List Notice := empty.addAll items

end RemovalPlan

end Provision
