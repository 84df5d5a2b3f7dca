/-!
# Lone surrogates

* `surrogate`, `surrogate?`: the character that carries a code point between U+D800 and U+DFFF, and
  back.

A document may name such a code point by an escape. No text holds it, so it is carried by the
character 0x100000 further on, which is for private use.
-/

namespace Provision.Text

/-- How far the carrying characters are from the code points that they carry. -/
def surrogateShift : Nat := 0x100000

/-- Whether a code point is a surrogate. -/
def isSurrogate (n : Nat) : Bool := 0xD800 ≤ n && n ≤ 0xDFFF

/-- The character that carries a surrogate. -/
def surrogate (n : Nat) : Char := Char.ofNat (surrogateShift + n)

/-- The surrogate that a character carries. -/
def surrogate? (c : Char) : Option Nat :=
  if isSurrogate (c.toNat - surrogateShift) then some (c.toNat - surrogateShift) else none

/-- Whether a text can be encoded: no character carries a surrogate. -/
def isEncodable (s : String) : Bool := s.toList.all fun c => (surrogate? c).isNone

end Provision.Text
