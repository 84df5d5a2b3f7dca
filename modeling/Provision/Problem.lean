import Provision.Registry.Kind
import Provision.Value.Text

/-!
# What is wrong with a document

* `Problem`: the reasons for which a catalogue, a configuration, a snapshot or an option is refused.
* `Problem.message`: the wording of each.
* `Problem.isWritable`: whether there is such a wording; numbers with too many digits have none.

A place is the path to the offending node, as the messages show it.
-/

namespace Provision

/-- The two modes that patch part of a binary value. -/
inductive PatchName where
  | bit
  | byte
deriving DecidableEq, Repr

/-- The word for a patch in messages. -/
def PatchName.text : PatchName → String
  | bit => "BitPatch"
  | byte => "BytePatch"

/-- A reason to refuse a document or an option. -/
inductive Problem where
  | fileMissing (path : String)
  | malformed (path : String)
  | emptyFile (path : String)
  | topLevelNotMap (path : String)
  | notMap (place kind : String)
  | notList (place kind : String)
  | notInteger (place : String) (found : Value)
  | keyPathRequired (place : String)
  | kindUnknown (place : String) (found : Value)
  | modesCombined (place : String) (names : List String)
  | indexOnSubkey (place : String)
  | indexRequired (place : String)
  | indexUnused (place : String)
  | indexNegative (index : Int)
  | maskOutOfRange (mask : Int)
  | keyPathMissing
  | targetKindUnknown (name path : String)
  | subkeyNamesValue (path name : String)
  | valueNameMissing (path : String)
  | patchNeedsBinary (patch : PatchName) (path name : String) (kind : ValueKind)
  | taskPathRequired (place : String)
  | guidsRequired (place : String)
  | modeSupportUnknown (place : String)
  | idRequired (place : String)
  | inputKindUnknown (place : String) (found : Value)
  | itemKindUnknown (id found : Value)
  | pairExpected (place : String)
  | backendUnknown (name : String) (available : List String)
  /-- A number has too many digits to be written where its text is needed. -/
  | tooManyDigits

/-- The wording of a problem. -/
def Problem.message : Problem → String
  | fileMissing path => "file not found: " ++ path
  | malformed path => "failed to parse YAML in " ++ path ++ ": <yaml error>"
  | emptyFile path => "YAML file is empty: " ++ path
  | topLevelNotMap path => "top level of " ++ path ++ " must be a mapping"
  | notMap place kind => place ++ " must be a mapping, got " ++ kind
  | notList place kind => place ++ " must be a list, got " ++ kind
  | notInteger place found => place ++ " must be an integer, got " ++ found.shown
  | keyPathRequired place => place ++ ": key_path is required"
  | kindUnknown place found =>
    place ++ ": unknown value_kind " ++ found.shown ++ " (expected one of " ++
      Text.join ", " (ValueKind.all.map ValueKind.name) ++ ")"
  | modesCombined place names => place ++ ": " ++ Text.join " and " names ++ " cannot be combined"
  | indexOnSubkey place => place ++ ": binary_byte_index is not valid on a GUID subkey"
  | indexRequired place => place ++ ": binary_byte_index is required for byte and bit patches"
  | indexUnused place => place ++ ": binary_byte_index needs bit_mask or modify_byte_only"
  | indexNegative index => "byte index must be >= 0, got " ++ toString index
  | maskOutOfRange mask => "bit mask must be between 0x01 and 0xFF, got " ++ toString mask
  | keyPathMissing => "registry target is missing key_path"
  | targetKindUnknown name path =>
    "unknown value kind " ++ Text.quoted name ++ " for " ++ path
  | subkeyNamesValue path name =>
    "GUID subkey target " ++ path ++ " must not name a value (got " ++ Text.quoted name ++ ")"
  | valueNameMissing path => "registry target " ++ path ++ " needs a value_name"
  | patchNeedsBinary patch path name kind =>
    patch.text ++ " on " ++ path ++ "\\" ++ name ++ " requires value_kind Binary, got " ++ kind.name
  | taskPathRequired place => place ++ ": task_path is required"
  | guidsRequired place => place ++ ": subgroup_guid and setting_guid are required"
  | modeSupportUnknown place => place ++ ": mode_support must be 'separate' or 'combined'"
  | idRequired place => place ++ ": id is required"
  | inputKindUnknown place found => place ++ ": unknown input_type " ++ found.shown
  | itemKindUnknown id found => "item " ++ id.text ++ ": unknown inputType " ++ found.shown
  | pairExpected place => place ++ " must be [ac, dc] or \x7bac, dc\x7d"
  | backendUnknown name available =>
    "Unknown service backend: " ++ Text.quoted name ++ ". Available: " ++
      if available.isEmpty then "(none)" else Text.join ", " available
  | tooManyDigits => "a number has more than " ++ toString Numeral.maxDigits ++ " digits"

/-- Whether the wording of a problem can be written. -/
def Problem.isWritable : Problem → Bool
  | notInteger _ found => found.isWritable
  | kindUnknown _ found => found.isWritable
  | inputKindUnknown _ found => found.isWritable
  | itemKindUnknown id found => id.isWritable && found.isWritable
  | indexNegative index => Numeral.fits index
  | maskOutOfRange mask => Numeral.fits mask
  | tooManyDigits => false
  | _ => true

end Provision
