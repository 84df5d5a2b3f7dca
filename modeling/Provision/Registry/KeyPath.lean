import Provision.Text.Case

/-!
# Registry paths in drive form

* `KeyPath.hives`: the spellings of the registry hives, with the drive each is mounted at.
* `KeyPath.toDrive`: a path whose hive is replaced by its drive.
-/

namespace Provision.KeyPath

/-- Hive spellings in upper case with their drives; the first that fits is taken. -/
def hives : List (String × String) := [
  ("HKEY_CURRENT_USER\\", "HKCU:\\"),
  ("HKEY_LOCAL_MACHINE\\", "HKLM:\\"),
  ("HKEY_CLASSES_ROOT\\", "HKCR:\\"),
  ("HKEY_USERS\\", "HKU:\\"),
  ("HKCU\\", "HKCU:\\"),
  ("HKLM\\", "HKLM:\\"),
  ("HKCR\\", "HKCR:\\"),
  ("HKU\\", "HKU:\\")]

/-- The hive spelling that a path begins with in any letter case. -/
def hiveOf? (path : List Char) : Option (String × String) :=
  hives.find? fun hive => Text.startsWith hive.1.toList (Text.upperChars path)

/-- The path in drive form; a path that begins with no hive spelling stays as it is. -/
def toDrive (path : String) : String :=
  match hiveOf? path.toList with
  | some hive => hive.2 ++ String.ofList (path.toList.drop hive.1.length)
  | none => path

end Provision.KeyPath
