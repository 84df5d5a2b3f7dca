import Provision.Number.Binary64
import Provision.Number.Numeral

/-!
# The text of a floating-point number

* `Binary64.shortest`: the fewest decimal digits that read back as the number, and of those the
  nearest to it.
* `Binary64.text`: those digits in positional notation from `0.0001` up to, but not including,
  `1e16`, and with an exponent beyond.
* `Binary64.ofText?`: reading such a text.
-/

namespace Provision.Binary64

/-- `a / b < c / d` for ratios. -/
def ratioLt (a b c d : Nat) : Bool := a * d < c * b

/-- `a / b ≤ c / d` for ratios. -/
def ratioLe (a b c d : Nat) : Bool := a * d ≤ c * b

/-- The ends of the interval of ratios that round to `m * 2 ^ e`, in quarters of `2 ^ e`; below a
power of two the numbers lie twice as close. -/
def quarterEnds (m : Nat) (e : Int) : Nat × Nat :=
  (if m = significandStart && e > minExponent then 4 * m - 1 else 4 * m - 2, 4 * m + 2)

/-- Whether `num / den` rounds to `m * 2 ^ e`; the ends belong to an even significand. -/
def readsBack (m : Nat) (e : Int) (num den : Nat) : Bool :=
  let (lo, hi) := quarterEnds m e
  let l := ratio lo (e - 2)
  let h := ratio hi (e - 2)
  if m % 2 = 0 then ratioLe l.1 l.2 num den && ratioLe num den h.1 h.2
  else ratioLt l.1 l.2 num den && ratioLt num den h.1 h.2

/-- `n * 10 ^ p` as a ratio. -/
def decimalRatio (n : Nat) (p : Int) : Nat × Nat :=
  if p ≥ 0 then (n * Nat.pow 10 p.toNat, 1) else (n, Nat.pow 10 (-p).toNat)

/-- The nearest multiple of `10 ^ p` that reads back as `m * 2 ^ e`, if one does; of two that are
equally near it is the even one. -/
def gridPoint? (m : Nat) (e p : Int) : Option Nat :=
  let v := ratio m e
  let s := if p ≥ 0 then (v.1, v.2 * Nat.pow 10 p.toNat) else (v.1 * Nat.pow 10 (-p).toNat, v.2)
  let below := s.1 / s.2
  let hit (n : Nat) : Bool :=
    let r := decimalRatio n p
    readsBack m e r.1 r.2
  match hit below, hit (below + 1) with
  | true, true => some (below + if roundsUp below (s.1 % s.2) s.2 then 1 else 0)
  | true, false => some below
  | false, true => some (below + 1)
  | false, false => none

/-- How many decimal digits the integer part of `num / den` has, or minus the number of zeros after
the point of a ratio below one; found by trying `fuel` places from `guess` up. -/
def magnitude (num den : Nat) : Nat → Int → Int
  | 0, guess => guess
  | fuel + 1, guess =>
    let r := decimalRatio 1 guess
    if ratioLt num den r.1 r.2 then guess else magnitude num den fuel (guess + 1)

/-- The first grid, from one digit on, with a point that reads back. -/
def shortestFrom (m : Nat) (e size : Int) : Nat → Nat → Nat × Int
  | 0, _ => (0, 0)
  | fuel + 1, digits =>
    let p := size - digits
    match gridPoint? m e p with
    | some n => (n, p)
    | none => shortestFrom m e size fuel (digits + 1)

/-- The shortest decimal `n * 10 ^ p` that reads back as the positive number `m * 2 ^ e`. -/
def shortest (m : Nat) (e : Int) : Nat × Int :=
  let r := ratio m e
  let guess : Int := ((r.1.log2 : Int) - r.2.log2 - 1) * 30103 / 100000 - 1
  shortestFrom m e (magnitude r.1 r.2 8 guess) 20 1

/-- A decimal without the zeros at the end of its digits. -/
def dropZeros : Nat → Nat → Int → Nat × Int
  | 0, n, p => (n, p)
  | fuel + 1, n, p => if n % 10 = 0 && n != 0 then dropZeros fuel (n / 10) (p + 1) else (n, p)

/-- The text of the positive number `n * 10 ^ p`. -/
def decimalText (n : Nat) (p : Int) : List Char :=
  let ds := (toString n).toList
  let point : Int := ds.length + p
  if -4 < point && point ≤ 16 then
    if point ≤ 0 then '0' :: '.' :: List.replicate (-point).toNat '0' ++ ds
    else if point ≥ ds.length then
      ds ++ List.replicate (point.toNat - ds.length) '0' ++ ['.', '0']
    else ds.take point.toNat ++ '.' :: ds.drop point.toNat
  else
    let power := point - 1
    let exponent := (toString power.natAbs).toList
    let exponent := if exponent.length < 2 then '0' :: exponent else exponent
    let fraction := ds.drop 1
    ds.take 1 ++ (if fraction.isEmpty then [] else '.' :: fraction) ++
      'e' :: (if power < 0 then '-' else '+') :: exponent

/-- The text of a number. -/
def text : Binary64 → String
  | nan => "nan"
  | infinite s => if s then "-inf" else "inf"
  | finite s m e =>
    let body :=
      if m = 0 then "0.0".toList
      else
        let (n, p) := shortest m e
        let (n, p) := dropZeros 20 n p
        decimalText n p
    String.ofList (if s then '-' :: body else body)

/-! ## Reading -/

/-- An exponent of ten, with an optional sign. -/
def exponent? (cs : List Char) : Option Int :=
  let value? (ds : List Char) : Option Int :=
    if ds.isEmpty || !ds.all (Numeral.digitValue? 10 · |>.isSome) then none
    else some (Numeral.ofDigits 10 (ds.filterMap (Numeral.digitValue? 10)) : Nat)
  match cs with
  | '-' :: ds => (value? ds).map (- ·)
  | '+' :: ds => value? ds
  | ds => value? ds

/-- An unsigned decimal with an optional fraction and an optional exponent. -/
def unsigned? (negative : Bool) (cs : List Char) : Option Binary64 :=
  let isDigit (c : Char) : Bool := (Numeral.digitValue? 10 c).isSome
  let whole := cs.takeWhile isDigit
  let rest := cs.dropWhile isDigit
  let (fraction, rest) :=
    match rest with
    | '.' :: r => (r.takeWhile isDigit, r.dropWhile isDigit)
    | r => ([], r)
  if whole.isEmpty && fraction.isEmpty then none
  else
    let ds := (whole ++ fraction).filterMap (Numeral.digitValue? 10)
    let finish (e : Int) := ofDecimal negative (Numeral.ofDigits 10 ds) (e - fraction.length)
    match rest with
    | [] => some (finish 0)
    | 'e' :: r => (exponent? r).map finish
    | _ => none

/-- The number that a lower case text denotes: a decimal, `inf`, `infinity` or `nan`, with an
optional sign and blanks around it. -/
def ofText? (s : String) : Option Binary64 :=
  let cs := (Numeral.trim s.toList).map Numeral.plainDigit
  let body? (negative : Bool) (r : List Char) : Option Binary64 :=
    if r = "inf".toList || r = "infinity".toList then some (infinite negative)
    else if r = "nan".toList then some nan
    else unsigned? negative r
  match cs with
  | '-' :: r => body? true r
  | '+' :: r => body? false r
  | r => body? false r

end Provision.Binary64
