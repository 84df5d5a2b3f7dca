/-!
# Kinds of registry values

* `ValueKind`: the seven kinds a catalogue may name.
* `ValueKind.ofName?`: the kind with a given name.
* `ValueKind.typeName`: the type a script passes when it writes a value of a kind.
-/

namespace Provision

/-- The kind of a registry value. -/
inductive ValueKind where
  | string
  | expandString
  | dword
  | qword
  | binary
  | multiString
  /-- No declared type. -/
  | untyped
deriving DecidableEq, Repr

namespace ValueKind

/-- All kinds, in the order in which messages list them. -/
def all : List ValueKind :=
  [string, expandString, dword, qword, binary, multiString, untyped]

/-- The name of a kind. -/
def name : ValueKind → String
  | string => "String"
  | expandString => "ExpandString"
  | dword => "DWord"
  | qword => "QWord"
  | binary => "Binary"
  | multiString => "MultiString"
  | untyped => "None"

/-- The kind with a given name. -/
def ofName? (s : String) : Option ValueKind := all.find? fun k => k.name == s

@[simp] theorem ofName?_name (k : ValueKind) : ofName? k.name = some k := by cases k <;> decide

/-- The type under which a value of a kind is written; without a declared type it is a string. -/
def typeName : ValueKind → String
  | untyped => "String"
  | k => k.name

end ValueKind

end Provision
