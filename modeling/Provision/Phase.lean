import Provision.Text.Blank
import Provision.Text.Case

/-!
# The two phases of a script

* `Phase`: the machine-wide pass and the pass that runs for a user at the first logon.
* `Phase.ofKeyPath`: the phase that owns a registry key.
-/

namespace Provision

/-- A phase of the script. -/
inductive Phase where
  /-- Runs elevated before any user logs on. -/
  | system
  /-- Runs at the first logon, with the registry of that user. -/
  | user
deriving DecidableEq, Repr

namespace Phase

/-- The word for a phase. -/
def name : Phase → String
  | system => "system"
  | user => "user"

/-- The other phase. -/
def opposite : Phase → Phase
  | system => user
  | user => system

@[simp] theorem opposite_opposite (p : Phase) : p.opposite.opposite = p := by cases p <;> rfl

/-- What the paths of a user's registry begin with, in upper case. -/
def userHives : List String := ["HKEY_CURRENT_USER", "HKCU"]

/-- The phase that owns a registry key: letter case and blanks in front do not matter. -/
def ofKeyPath (path : String) : Phase :=
  let folded := Text.upperChars (Text.trim path).toList
  if userHives.any fun hive => Text.startsWith hive.toList folded then user else system

end Phase

end Provision
