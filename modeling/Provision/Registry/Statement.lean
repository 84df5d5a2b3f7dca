import Provision.Journal.Notice
import Provision.Registry.KeyPath
import Provision.Registry.Literal
import Provision.Registry.Target

/-!
# Registry statements

* `Statement`: one registry command of the script.
* `Statement.text`: the line of the script that gives the command.
* `Target.statements`: the commands that bring a target to a value.
* `Target.anomaly?`: what is odd about a value that is written all the same.
-/

namespace Provision

/-- One registry command; paths are in drive form. -/
inductive Statement where
  | setValue (path name type literal description : String)
  | removeValue (path name description : String)
  | newKey (path description : String)
  | removeKey (path description : String)
  | setBit (path name : String) (index mask : Nat) (on : Bool) (description : String)
  | setByte (path name : String) (index : Nat) (literal description : String)
deriving DecidableEq, Repr

/-- The line of the script that gives a command. -/
def Statement.text : Statement → String
  | setValue path name type literal description =>
    "Set-RegistryValue -Path " ++ Literal.quote path ++ " -Name " ++ Literal.quote name ++
      " -Type '" ++ type ++ "' -Value " ++ literal ++ " -Description " ++ Literal.quote description
  | removeValue path name description =>
    "Remove-RegistryValue -Path " ++ Literal.quote path ++ " -Name " ++ Literal.quote name ++
      " -Description " ++ Literal.quote description
  | newKey path description =>
    "New-RegistryKey -Path " ++ Literal.quote path ++ " -Description " ++ Literal.quote description
  | removeKey path description =>
    "Remove-RegistryKey -Path " ++ Literal.quote path ++
      " -Description " ++ Literal.quote description
  | setBit path name index mask on description =>
    "Set-BinaryBit -Path " ++ Literal.quote path ++ " -Name " ++ Literal.quote name ++
      " -ByteIndex " ++ toString index ++ " -BitMask 0x" ++ Text.hexByte mask ++
      " -SetBit " ++ (if on then "$true" else "$false") ++
      " -Description " ++ Literal.quote description
  | setByte path name index literal description =>
    "Set-BinaryByte -Path " ++ Literal.quote path ++ " -Name " ++ Literal.quote name ++
      " -ByteIndex " ++ toString index ++ " -ByteValue " ++ literal ++
      " -Description " ++ Literal.quote description

/-- The texts that stand for off, whatever their letter case and the blanks around them. -/
def offWords : List String := ["", "0", "false", "off", "no"]

/-- Whether a value turns a bit on. -/
def Value.turnsOn : Value → Bool
  | .str s => !offWords.contains (Text.lower (Text.trim s))
  | v => v.isTruthy

/-- Whether a value is the empty text. -/
def Value.isEmptyText : Value → Bool
  | .str s => s == ""
  | _ => false

namespace Target

/-- The name of a target's value in commands. -/
def commandName (t : Target) : String := t.valueName.getD "None"

/-- Goes on only with the index of a byte that can be written. -/
def requireDigits (index : Nat) : Except Misfit Unit :=
  if Numeral.fits index then .ok () else .error .wrongContent

/-- The commands that bring a target to a value; `path` is its key in drive form. The empty value
stands for removal, and the empty text for an empty string, which under a subkey is the default
value. -/
def statementsAt (t : Target) (path : String) (v : Value) (description : String) :
    Except Misfit (List Statement) :=
  match t.mode with
  | .bit index mask => do
    requireDigits index
    return [.setBit path t.commandName index mask v.turnsOn description]
  | .byte index => do
    requireDigits index
    return [.setByte path t.commandName index (Literal.byte v).1 description]
  | .subkey =>
    .ok <|
      if v.isNull then [.removeKey path description]
      else if v.isEmptyText then
        [.newKey path description, .setValue path "(Default)" "String" "''" description]
      else [.newKey path description]
  | .plain =>
    if v.isNull then .ok [.removeValue path t.commandName description]
    else if v.isEmptyText then
      .ok [.setValue path t.commandName "String" "''" description]
    else do
      let literal ← Literal.value v t.kind
      return [.setValue path t.commandName t.kind.typeName literal description]

/-- The commands that bring a target to a value at its own key. -/
def statements (t : Target) (v : Value) (description : String) : Except Misfit (List Statement) :=
  t.statementsAt (KeyPath.toDrive t.keyPath) v description

/-- The notice about a byte patch whose value is no byte. -/
def anomaly? (t : Target) (v : Value) : Option Notice :=
  match t.mode with
  | .byte _ => if (Literal.byte v).2 then none else some (.notByte v t.keyPath t.commandName)
  | _ => none

end Target

end Provision
