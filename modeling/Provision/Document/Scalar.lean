import Provision.Document.Base64
import Provision.Document.Fault
import Provision.Document.Plain
import Provision.Text.Case

/-!
# The values of scalars

* `scalarValue`: the value of a scalar of a kind, or why it has none.
-/

namespace Provision.Document

/-- A value, or a misfit in its place. -/
def orMisfit {α : Type} (m : Misfit) : Option α → Except DocumentFault α
  | some a => .ok a
  | none => .error (.misfit m)

/-- A text without low lines, and whether it has a minus sign, which is removed. -/
def unsign (text : String) : Except DocumentFault (Bool × List Char) :=
  match text.toList.filter (· != '_') with
  | [] => .error (.misfit .tooShort)
  | '-' :: r => .ok (true, r)
  | '+' :: r => .ok (false, r)
  | r => .ok (false, r)

/-- The parts of a number in sixties. -/
def sixtyParts (r : List Char) : List String := (Text.splitChars ':' r).map String.ofList

/-! ## Numbers -/

/-- The magnitude of an integer: binary, hexadecimal, octal, in sixties or decimal. -/
def magnitude (r : List Char) : Except DocumentFault Int :=
  let numeral := orMisfit Misfit.wrongContent
  match r with
  | [] => .error (.misfit .tooShort)
  | ['0'] => .ok 0
  | '0' :: 'b' :: ds => numeral (Numeral.inBase? 2 (String.ofList ds))
  | '0' :: 'x' :: ds => numeral (Numeral.inBase? 16 (String.ofList ds))
  | '0' :: _ => numeral (Numeral.inBase? 8 (String.ofList r))
  | _ =>
    if r.contains ':' then do
      let parts ← (sixtyParts r).mapM fun s => numeral (Numeral.decimal? s)
      return parts.foldl (fun n d => n * 60 + d) 0
    else numeral (Numeral.decimal? (String.ofList r))

/-- An integer. -/
def integerValue (text : String) : Except DocumentFault Value := do
  let (negative, r) ← unsign text
  let n ← magnitude r
  return .int (if negative then -n else n)

/-- The sum of the parts of a number in sixties, the last part weighing one; a weight that is no
finite floating-point number is a fault. -/
def sixtySum : Binary64 → Int → List Binary64 → Except DocumentFault Binary64
  | sum, _, [] => .ok sum
  | sum, weight, d :: ds =>
    match Binary64.ofInt weight with
    | .infinite _ => .error (.misfit .infinite)
    | w => sixtySum (sum.add (d.mul w)) (weight * 60) ds

/-- A floating-point number. -/
def floatValue (text : String) : Except DocumentFault Value := do
  let (negative, r) ← unsign (Text.lower text)
  let number (s : String) := orMisfit Misfit.wrongContent (Binary64.ofText? s)
  if r.isEmpty then throw (.misfit .wrongContent)
  if r = ".nan".toList then return .float .nan
  let x ←
    if r = ".inf".toList then pure (Binary64.infinite false)
    else if r.contains ':' then do
      let parts ← (sixtyParts r).mapM number
      sixtySum (.zero false) 1 parts.reverse
    else number (String.ofList r)
  return .float (if negative then x.neg else x)

/-! ## Bytes, days and times -/

/-- A string of bytes in base 64. -/
def bytesValue (text : String) : Except DocumentFault Value := do
  if text.toList.any fun c => c.toNat ≥ 128 then throw .malformed
  return .bytes (← orMalformed (Base64.decode? text.toList))

/-- The number that digits stand for. -/
def numberOf (ds : List Char) : Nat := ds.foldl (fun n d => n * 10 + (d.toNat - 48)) 0

/-- Whether a year has a day more. -/
def isLeap (year : Nat) : Bool := year % 4 = 0 && (year % 100 != 0 || year % 400 = 0)

/-- How many days a month has. -/
def daysIn (year month : Nat) : Nat :=
  if month = 2 then if isLeap year then 29 else 28
  else if month = 4 || month = 6 || month = 9 || month = 11 then 30
  else 31

/-- A day of the calendar. -/
def day? (year month day : Nat) : Option Day :=
  if 1 ≤ year && 1 ≤ month && month ≤ 12 && 1 ≤ day && day ≤ daysIn year month then
    some ⟨year, month, day⟩
  else none

/-- The first six digits of a fraction, filled up with zeros. -/
def microseconds (fraction : List Char) : Nat :=
  let ds := fraction.take 6
  numberOf (ds ++ List.replicate (6 - ds.length) '0')

/-- The offset of a zone in minutes, which has to be less than a day. -/
def offset? : Option (Option Char × List Char × List Char) → Option (Option Int)
  | none => some none
  | some (none, _, _) => some (some 0)
  | some (some sign, hour, minute) =>
    let n := numberOf hour * 60 + numberOf minute
    if n < 1440 then some (some (if sign = '-' then -(n : Int) else n)) else none

/-- A day, or a day with a time. -/
def timeValue (text : String) : Except DocumentFault Value := do
  let all := text.toList
  let cs := if all.getLast? = some '\n' then all.dropLast else all
  let p ← orMisfit .lacksPart (timeParts? cs)
  let d? := day? (numberOf p.year) (numberOf p.month) (numberOf p.day)
  match p.clock with
  | none => return .day (← orMisfit .wrongContent d?)
  | some (hour, minute, second, fraction) =>
    let offset ← orMisfit .wrongContent (offset? p.zone)
    let d ← orMisfit .wrongContent d?
    let (h, m, s) := (numberOf hour, numberOf minute, numberOf second)
    if h < 24 && m < 60 && s < 60 then
      return .moment ⟨d, h, m, s, microseconds fraction, offset⟩
    else throw (.misfit .wrongContent)

/-! ## All kinds -/

/-- The truth value of a word, in any letter case. -/
def truthValue (text : String) : Except DocumentFault Value :=
  match truthWords.find? fun w => w.1 == Text.lower text with
  | some w => .ok (.bool w.2)
  | none => .error (.misfit .unlisted)

/-- The value of a scalar of a kind. -/
def scalarValue (kind : Kind) (text : String) : Except DocumentFault Value :=
  match kind with
  | .null => .ok .null
  | .bool => truthValue text
  | .int => integerValue text
  | .float => floatValue text
  | .binary => bytesValue text
  | .time => timeValue text
  | .str => .ok (.str text)
  | _ => .error .malformed

end Provision.Document
