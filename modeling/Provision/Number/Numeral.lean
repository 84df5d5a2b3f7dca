import Provision.Text.Blank
import Provision.Text.Digit

/-!
# Numerals

* `Numeral.decimal?`: the integer that a decimal numeral denotes.
* `Numeral.anyBase?`: the same, where `0x`, `0o` and `0b` announce another base and a decimal
  numeral may begin with zeros only if it is zero.
* `Numeral.inBase?`: the same for a known base.
* `Numeral.decimalOfBytes?`: a decimal numeral in ASCII bytes.
* `Numeral.fits`: whether a number has few enough digits to be written.

A numeral may have a sign, single low lines between its digits, digits of any script, and blanks
around it. A decimal numeral of more than `Numeral.maxDigits` digits is neither read nor written.
-/

namespace Provision.Numeral

open Provision.Text

/-- The most digits a decimal numeral may have. -/
def maxDigits : Nat := 4300

/-- The least number whose decimal numeral has too many digits. -/
def limit : Nat := Nat.pow 10 maxDigits

/-- Whether the decimal numeral of a number has at most `maxDigits` digits. -/
def fits (n : Int) : Bool := n.natAbs < limit

/-- Blanks that may surround a numeral: the separator controls are not among them. -/
def isMargin (c : Char) : Bool := isBlank c && !(0x1C ≤ c.toNat && c.toNat ≤ 0x1F)

/-- Characters without the blanks that may surround a numeral. -/
def trim (cs : List Char) : List Char := dropEndWhile isMargin (cs.dropWhile isMargin)

/-- A digit of any script as an ASCII digit. -/
def plainDigit (c : Char) : Char :=
  match decimalValue? c with
  | some d => Char.ofNat (48 + d)
  | none => c

/-- The value of an ASCII digit or letter as a digit. -/
def digitValue? (base : Nat) (c : Char) : Option Nat := (hexValue? c).filter (· < base)

/-- A digit or the low line that may part two digits. -/
def isDigitOrGap (base : Nat) (c : Char) : Bool := c = '_' || (digitValue? base c).isSome

/-- The number with the given digits, the highest first. -/
def ofDigits (base : Nat) (ds : List Nat) : Nat := ds.foldl (fun n d => n * base + d) 0

/-- The digits of an unsigned numeral: nothing but blanks may follow them, and low lines stand
singly between two digits. -/
def digits? (base : Nat) (cs : List Char) : Option (List Nat) :=
  let run := cs.takeWhile (isDigitOrGap base)
  if (cs.dropWhile (isDigitOrGap base)).all isMargin &&
      (splitChars '_' run).all (fun piece => !piece.isEmpty) then
    some (run.filterMap (digitValue? base))
  else none

/-- An unsigned decimal numeral. -/
def unsignedDecimal? (cs : List Char) : Option Nat := do
  let ds ← digits? 10 cs
  if ds.length ≤ maxDigits then some (ofDigits 10 ds) else none

/-- Drops one low line, which may follow the letter that announces a base. -/
def dropGap : List Char → List Char
  | '_' :: cs => cs
  | cs => cs

/-- An unsigned numeral whose base is announced by its beginning. -/
def unsignedAnyBase? (cs : List Char) : Option Nat :=
  let based (base : Nat) (rest : List Char) := (digits? base (dropGap rest)).map (ofDigits base)
  match cs with
  | '0' :: 'x' :: rest => based 16 rest
  | '0' :: 'X' :: rest => based 16 rest
  | '0' :: 'o' :: rest => based 8 rest
  | '0' :: 'O' :: rest => based 8 rest
  | '0' :: 'b' :: rest => based 2 rest
  | '0' :: 'B' :: rest => based 2 rest
  | '0' :: _ => (unsignedDecimal? cs).filter (· == 0)
  | _ => unsignedDecimal? cs

/-- An unsigned numeral in a given base, which may be announced. -/
def unsignedInBase? (base : Nat) (cs : List Char) : Option Nat :=
  let rest :=
    match cs with
    | '0' :: x :: rest =>
      if (base = 16 && (x = 'x' || x = 'X')) || (base = 8 && (x = 'o' || x = 'O')) ||
          (base = 2 && (x = 'b' || x = 'B')) then dropGap rest
      else cs
    | _ => cs
  (digits? base rest).map (ofDigits base)

/-- A numeral with an optional sign, after blanks. -/
def signed? (unsigned? : List Char → Option Nat) (cs : List Char) : Option Int :=
  match cs.dropWhile isMargin with
  | '-' :: rest => (unsigned? rest).map fun n => -(n : Int)
  | '+' :: rest => (unsigned? rest).map fun n => (n : Int)
  | rest => (unsigned? rest).map fun n => (n : Int)

/-- The integer that a decimal numeral denotes. -/
def decimal? (s : String) : Option Int := signed? unsignedDecimal? (s.toList.map plainDigit)

/-- The integer that a numeral in any base denotes. -/
def anyBase? (s : String) : Option Int := signed? unsignedAnyBase? (s.toList.map plainDigit)

/-- The integer that a numeral in base two, eight or sixteen denotes. -/
def inBase? (base : Nat) (s : String) : Option Int :=
  signed? (unsignedInBase? base) (s.toList.map plainDigit)

/-- The integer that a decimal numeral in ASCII bytes denotes. -/
def decimalOfBytes? (bs : List UInt8) : Option Int :=
  if bs.all fun b => b.toNat < 128 then
    signed? unsignedDecimal? (bs.map fun b => Char.ofNat b.toNat)
  else none

end Provision.Numeral
