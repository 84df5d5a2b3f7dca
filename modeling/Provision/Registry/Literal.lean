import Provision.Registry.Kind
import Provision.Value.Text

/-!
# Script literals

* `Literal.escape`, `Literal.quote`: a text between single quotes, in which a quote is written
  twice.
* `Literal.byte`: one byte in hexadecimal notation, or the zero byte for what is no byte.
* `Literal.value`: a registry value in the notation of its kind.
* `Literal.identifier`: a text that may stand in the name of a variable.
-/

namespace Provision.Literal

/-- Every single quote is written twice. -/
def escapeChars (cs : List Char) : List Char :=
  cs.flatMap fun c => if c = '\'' then ['\'', c] else [c]

theorem escapeChars_cons (c : Char) (cs : List Char) :
    escapeChars (c :: cs) = (if c = '\'' then ['\'', c] else [c]) ++ escapeChars cs :=
  List.flatMap_cons

/-- A text with every single quote written twice. -/
def escape (s : String) : String := String.ofList (escapeChars s.toList)

/-- A text as a literal between single quotes. -/
def quote (s : String) : String := "'" ++ escape s ++ "'"

/-- The text of a value as a literal. -/
def quoteValue (v : Value) : String := quote v.text

/-- The same, unless the value has no text. -/
def quoteValue? (v : Value) : Except Misfit String := v.text?.map quote

/-- The low byte of an integer in hexadecimal notation. -/
def hexOf (n : Int) : String := "0x" ++ Text.hexByte (n % 256).toNat

/-- The byte that a value stands for: an integer modulo 256, or a single byte. -/
def byteOf? : Value → Option Int
  | .int n => some (n % 256)
  | .bytes [b] => some b.toNat
  | _ => none

/-- A byte in hexadecimal notation, and whether the value stood for one. -/
def byte (v : Value) : String × Bool :=
  match byteOf? v with
  | some n => (hexOf n, true)
  | none => (hexOf 0, false)

/-- An array of script expressions. -/
def array (items : List String) : String := "@(" ++ Text.join "," items ++ ")"

/-- An array of bytes. -/
def byteArray (bytes : List Int) : String := array (bytes.map hexOf)

/-- The bytes that pairs of hexadecimal digits denote; an odd digit out spoils all. -/
def pairBytes? : List Nat → Option (List Int)
  | [] => some []
  | hi :: lo :: rest => (pairBytes? rest).map ((hi * 16 + lo : Nat) :: ·)
  | [_] => none

/-- The bytes that a text denotes: all characters but hexadecimal digits are passed over. -/
def textBytes? (s : String) : Option (List Int) := pairBytes? (s.toList.filterMap Text.hexValue?)

/-- The integers that the items of a list stand for. -/
def integers : List Value → Except Misfit (List Int)
  | [] => .ok []
  | v :: vs => do
    let n ← v.toInteger
    let ns ← integers vs
    return n :: ns

/-- A whole number: texts are read as numerals in any base, and what is none stays a text. -/
def number (v : Value) : Except Misfit String :=
  match v with
  | .bool b => .ok (if b then "1" else "0")
  | .int _ => v.text?
  | .str s =>
    match Numeral.anyBase? (Text.trim s) with
    | some n => .ok (if Numeral.fits n then toString n else quote s)
    | none => .ok (quote s)
  | _ => quoteValue? v

/-- Binary data, from bytes, a list of integers, or hexadecimal text. -/
def binary (v : Value) : Except Misfit String :=
  match v.opened with
  | .bytes bs => .ok (byteArray (bs.map fun b => (b.toNat : Int)))
  | .list vs => (integers vs).map byteArray
  | .tuple vs => (integers vs).map byteArray
  | .str s => .ok (byteArray ((textBytes? s).getD []))
  | v => .ok (array [(byte v).1])

/-- The items of a list; any other value is its own only item. -/
def itemsOf (v : Value) : List Value :=
  match v.opened with
  | .list vs => vs
  | .tuple vs => vs
  | _ => [v]

/-- Several texts. -/
def texts (v : Value) : Except Misfit String := ((itemsOf v).mapM quoteValue?).map array

/-- A registry value in the notation of its kind. -/
def value (v : Value) (kind : ValueKind) : Except Misfit String :=
  match v with
  | .null => .ok "$null"
  | _ =>
    match kind with
    | .string | .expandString => quoteValue? v
    | .dword | .qword => number v
    | .binary => binary v
    | .multiString => texts v
    | .untyped =>
      match v with
      | .bool b => .ok (if b then "$true" else "$false")
      | _ => quoteValue? v

/-- Whether a character may stand in the name of a variable. -/
def isNameChar (c : Char) : Bool := c.isAlphanum || c = '_'

/-- A text that may stand in the name of a variable: every other character becomes a low line. -/
def identifier (s : String) : String :=
  String.ofList (s.toList.map fun c => if isNameChar c then c else '_')

end Provision.Literal
