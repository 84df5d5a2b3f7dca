import Provision.Text.Surrogate

/-!
# Text as bytes

* `utf8Step?`: one byte of UTF-8, which is refused as soon as no character can come of it.
* `decodeUtf8?`: the characters of well-formed UTF-8.
* `encodeUtf8`, `marked?`: the bytes of a text, alone or after a byte order mark.
-/

namespace Provision.Text

/-- A character of which some bytes are still to come. -/
structure Begun where
  /-- How many bytes are still to come. -/
  missing : Nat
  /-- The least byte that may come next. -/
  least : Nat
  /-- The greatest byte that may come next. -/
  most : Nat
  /-- The number that the bytes so far make. -/
  code : Nat
deriving DecidableEq, Repr

/-- The character that a first byte begins. The ranges of the second byte keep out overlong forms,
surrogates and numbers that are too large. -/
def begun? (b : Nat) : Option Begun :=
  if 0xC2 ≤ b ∧ b ≤ 0xDF then some ⟨1, 0x80, 0xBF, b - 0xC0⟩
  else if b = 0xE0 then some ⟨2, 0xA0, 0xBF, 0⟩
  else if b = 0xED then some ⟨2, 0x80, 0x9F, 0xD⟩
  else if 0xE1 ≤ b ∧ b ≤ 0xEF then some ⟨2, 0x80, 0xBF, b - 0xE0⟩
  else if b = 0xF0 then some ⟨3, 0x90, 0xBF, 0⟩
  else if b = 0xF4 then some ⟨3, 0x80, 0x8F, 4⟩
  else if 0xF1 ≤ b ∧ b ≤ 0xF3 then some ⟨3, 0x80, 0xBF, b - 0xF0⟩
  else none

/-- What one byte makes of the character begun before it, and the character it ends. -/
def utf8Step? (begun : Option Begun) (byte : UInt8) : Option (Option Begun × Option Char) :=
  let b := byte.toNat
  match begun with
  | none =>
    if b < 0x80 then some (none, some (Char.ofNat b))
    else (begun? b).map fun s => (some s, none)
  | some s =>
    if b < s.least ∨ s.most < b then none
    else
      let code := s.code * 64 + (b - 0x80)
      if s.missing ≤ 1 then some (none, some (Char.ofNat code))
      else some (some ⟨s.missing - 1, 0x80, 0xBF, code⟩, none)

/-- The characters of bytes that go on with a character begun before; the last one has to end. -/
def decodeUtf8From? (begun : Option Begun) : List UInt8 → Option (List Char)
  | [] => if begun.isNone then some [] else none
  | b :: bs => do
    let (begun, c) ← utf8Step? begun b
    let cs ← decodeUtf8From? begun bs
    return c.toList ++ cs

/-- Reads bytes as UTF-8; overlong forms, surrogates and stray bytes are refused. -/
def decodeUtf8? (bytes : List UInt8) : Option (List Char) := decodeUtf8From? none bytes

/-- The bytes of a text in UTF-8. -/
def encodeUtf8 (s : String) : List UInt8 := s.toUTF8.toList

/-- The bytes of a text in UTF-8, after a byte order mark; a text with a lone surrogate has none. -/
def marked? (s : String) : Option (List UInt8) :=
  if isEncodable s then some ([0xEF, 0xBB, 0xBF] ++ encodeUtf8 s) else none

end Provision.Text
