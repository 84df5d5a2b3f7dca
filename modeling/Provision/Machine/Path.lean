import Provision.Text.Blank

/-!
# Paths

* `Path`: a path of names, from a root or from the current folder.
* `Path.ofText`, `Path.text`: reading and showing one.
* `Path.parent`: the path without its last name.
* `Path.resolve`: the path from the root, without steps upwards.
-/

namespace Provision

/-- A path. -/
structure Path where
  /-- What it starts from: nothing for the current folder, or one or two strokes. -/
  root : String
  /-- The names on the way; `..` is a step upwards. -/
  names : List String
deriving DecidableEq, Repr

namespace Path

/-- The root that a text begins with: exactly two strokes are a root of their own. -/
def rootOf : List Char → String
  | '/' :: '/' :: '/' :: _ => "/"
  | '/' :: '/' :: _ => "//"
  | '/' :: _ => "/"
  | _ => ""

/-- The path a text denotes: empty names and single points are no steps. -/
def ofText (s : String) : Path :=
  ⟨rootOf s.toList, (Text.splitAtChar '/' s).filter fun n => n != "" && n != "."⟩

/-- A path as a text; one without any step is shown as a point. -/
def text (p : Path) : String :=
  if p.root = "" && p.names.isEmpty then "." else p.root ++ Text.join "/" p.names

/-- Whether the null character, which no file system knows, stands in a path. -/
def hasNull (p : Path) : Bool := p.names.any fun n => n.toList.contains (Char.ofNat 0)

/-- A path without its last name. -/
def parent (p : Path) : Path := ⟨p.root, p.names.dropLast⟩

/-- The place from which a path leads. -/
def start (folder : List String) (p : Path) : List String := if p.root = "" then folder else []

/-- Takes a step from a place, upwards or down. -/
def step (place : List String) (name : String) : List String :=
  if name = ".." then place.dropLast else place ++ [name]

/-- The place to which a path leads if all on its way are folders. -/
def place (folder : List String) (p : Path) : List String := p.names.foldl step (p.start folder)

/-- The path from the root to where a path leads. -/
def resolve (folder : List String) (p : Path) : Path := ⟨"/", p.place folder⟩

end Path

end Provision
