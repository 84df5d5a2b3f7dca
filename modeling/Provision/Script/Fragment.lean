import Provision.Script.Step

/-!
# Fixed pieces of script

* `Fragment`: lines of script text, indented relative to each other.
* `Fragment.scope`, `Fragment.branches`: a body between braces, and a chain of such bodies.
* `Fragment.attempt`: a body that may fail.
* `Fragment.list`: items between brackets.
* `Fragment.steps`: the steps that write a fragment.
-/

namespace Provision

/-- Lines of script text, indented relative to each other. -/
abbrev Fragment := List String

namespace Fragment

/-- The lines moved one level to the right; empty lines stay empty. -/
def inner (f : Fragment) : Fragment := f.map fun s => if s = "" then "" else Line.unit ++ s

/-- Further branches of a chain, each closed before the next begins. -/
def moreBranches : List (String × Fragment) → Fragment
  | [] => ["\x7d"]
  | (head, body) :: rest => ("\x7d " ++ head ++ " \x7b") :: inner body ++ moreBranches rest

/-- A chain of bodies between braces, such as a condition with its alternatives. -/
def branches : List (String × Fragment) → Fragment
  | [] => []
  | (head, body) :: rest => (head ++ " \x7b") :: inner body ++ moreBranches rest

/-- A body between braces. -/
def scope (head : String) (body : Fragment) : Fragment := branches [(head, body)]

/-- A body whose failure is passed over in silence. -/
def attempt (body : Fragment) : Fragment :=
  "try \x7b" :: inner body ++ ["\x7d catch \x7b \x7d"]

/-- Items between brackets. -/
def list (head : String) (items : Fragment) : Fragment := (head ++ "(") :: inner items ++ [")"]

/-- The steps that write a fragment at the current level. -/
def steps (f : Fragment) : List Step := f.map Step.line

/-- A fragment as one text. -/
def text (f : Fragment) : String := Text.join "\n" f

end Fragment

end Provision
