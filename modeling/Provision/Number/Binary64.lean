/-!
# Binary floating-point numbers

* `Binary64`: the numbers of the 64-bit binary format, with infinities and one not-a-number.
* `Binary64.ofRatio`: the nearest number to a ratio, a tie going to the even significand.
* `Binary64.ofDecimal`: the nearest number to a decimal.
* `Binary64.add`, `Binary64.mul`: sums and products, rounded once.
* `Binary64.Same`, `Binary64.truncate`: equality of values, and rounding toward zero.
-/

namespace Provision

/-- A binary floating-point number. A finite one is `significand * 2 ^ exponent` up to its sign,
where the significand is below `2 ^ 53` and, unless the exponent is `-1074`, not below `2 ^ 52`. -/
inductive Binary64 where
  | nan
  | infinite (negative : Bool)
  | finite (negative : Bool) (significand : Nat) (exponent : Int)
deriving DecidableEq, Repr

namespace Binary64

/-- The least exponent of a finite number. -/
def minExponent : Int := -1074

/-- The greatest exponent of a finite number. -/
def maxExponent : Int := 971

/-- One past the greatest significand: `2 ^ 53`. -/
def significandEnd : Nat := 1 <<< 53

/-- The least significand above the least exponent: `2 ^ 52`. -/
def significandStart : Nat := 1 <<< 52

/-- Zero with a sign. -/
def zero (negative : Bool) : Binary64 := finite negative 0 minExponent

/-- `num / den` scaled by `2 ^ (-e)`, as a ratio. -/
def scaled (num den : Nat) (e : Int) : Nat × Nat :=
  if e ≥ 0 then (num, den <<< e.toNat) else (num <<< (-e).toNat, den)

/-- Whether `q + r / den` is nearer to `q + 1` than to `q`; a tie goes to the even one. -/
def roundsUp (q r den : Nat) : Bool := 2 * r > den || (2 * r == den && q % 2 == 1)

/-- The nearest natural number to a ratio; a tie goes to the even one. -/
def roundRatio (num den : Nat) : Nat :=
  num / den + if roundsUp (num / den) (num % den) den then 1 else 0

/-- The nearest number to `num / den`, given a sign. -/
def ofRatio (negative : Bool) (num den : Nat) : Binary64 :=
  if num = 0 || den = 0 then zero negative
  else
    let guess : Int := max ((num.log2 : Int) - den.log2 - 53) minExponent
    let low := scaled num den guess
    let e := if low.1 / low.2 ≥ significandEnd then guess + 1 else guess
    let exact := scaled num den e
    let m := roundRatio exact.1 exact.2
    let (m, e) := if m = significandEnd then (significandStart, e + 1) else (m, e)
    if e > maxExponent then infinite negative else finite negative m e

/-- The magnitude of a finite number as a ratio. -/
def ratio (m : Nat) (e : Int) : Nat × Nat :=
  if e ≥ 0 then (m <<< e.toNat, 1) else (m, 1 <<< (-e).toNat)

/-- The number nearest to `digits * 10 ^ exponent`, given a sign. -/
def ofDecimal (negative : Bool) (digits : Nat) (exponent : Int) : Binary64 :=
  if digits = 0 then zero negative
  else
    let size := (digits.log2 : Int)
    if exponent > 400 then infinite negative
    else if exponent < -400 - size then zero negative
    else if exponent ≥ 0 then ofRatio negative (digits * Nat.pow 10 exponent.toNat) 1
    else ofRatio negative digits (Nat.pow 10 (-exponent).toNat)

/-- The number nearest to an integer. -/
def ofInt (n : Int) : Binary64 := ofRatio (n < 0) n.natAbs 1

/-- A finite number as a signed ratio. -/
def signedRatio (negative : Bool) (m : Nat) (e : Int) : Int × Nat :=
  let r := ratio m e
  (if negative then -(r.1 : Int) else r.1, r.2)

/-- Whether the sign is negative. -/
def isNegative : Binary64 → Bool
  | nan => false
  | infinite s => s
  | finite s _ _ => s

/-- The negated number. -/
def neg : Binary64 → Binary64
  | nan => nan
  | infinite s => infinite !s
  | finite s m e => finite (!s) m e

/-- The product, rounded. -/
def mul (a b : Binary64) : Binary64 :=
  let negative := a.isNegative != b.isNegative
  match a, b with
  | nan, _ => nan
  | _, nan => nan
  | infinite _, infinite _ => infinite negative
  | infinite _, finite _ m _ => if m = 0 then nan else infinite negative
  | finite _ m _, infinite _ => if m = 0 then nan else infinite negative
  | finite _ m e, finite _ m' e' =>
    let r := ratio m e
    let r' := ratio m' e'
    ofRatio negative (r.1 * r'.1) (r.2 * r'.2)

/-- The sum, rounded; a sum of opposites is a positive zero. -/
def add (a b : Binary64) : Binary64 :=
  match a, b with
  | nan, _ => nan
  | _, nan => nan
  | infinite s, infinite s' => if s = s' then infinite s else nan
  | infinite s, finite _ _ _ => infinite s
  | finite _ _ _, infinite s => infinite s
  | finite s m e, finite s' m' e' =>
    let (n, d) := signedRatio s m e
    let (n', d') := signedRatio s' m' e'
    let sum := n * d' + n' * d
    if sum = 0 then zero (s && s') else ofRatio (sum < 0) sum.natAbs (d * d')

/-- Whether two numbers have one value: zeros of both signs do, and a not-a-number has none. -/
def Same : Binary64 → Binary64 → Bool
  | infinite s, infinite s' => s == s'
  | finite s m e, finite s' m' e' => m == m' && (m == 0 || (e == e' && s == s'))
  | _, _ => false

/-- Whether a number has the value of an integer. -/
def SameInt : Binary64 → Int → Bool
  | finite s m e, n =>
    let (num, den) := signedRatio s m e
    num == n * den
  | _, _ => false

/-- Whether a number is a zero. -/
def isZero : Binary64 → Bool
  | finite _ m _ => m == 0
  | _ => false

/-- The integer part of a finite number. -/
def truncate (negative : Bool) (m : Nat) (e : Int) : Int :=
  let r := ratio m e
  let n : Int := (r.1 / r.2 : Nat)
  if negative then -n else n

end Binary64

end Provision
