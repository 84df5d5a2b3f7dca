import Provision.Text.Digit
import Provision.Text.Printable
import Provision.Text.Surrogate

/-!
# Quoted text

* `quoted`: a text between quotes, single ones unless it holds those and no double one, with
  backslash escapes for what cannot be shown.
* `quotedBytes`: the same for a string of bytes, marked with a leading `b`.
-/

namespace Provision.Text

/-- The quote that needs fewer escapes: a double one only for a text with single ones alone. -/
def quoteFor (cs : List Char) : Char := if cs.contains '\'' && !cs.contains '"' then '"' else '\''

/-- A character between `q` quotes; one that carries a surrogate is shown as that. -/
def quotedChar (q c : Char) : List Char :=
  if c = q || c = '\\' then ['\\', c]
  else if c = '\n' then ['\\', 'n']
  else if c = '\r' then ['\\', 'r']
  else if c = '\t' then ['\\', 't']
  else if isPrintable c then [c]
  else
    let n := (surrogate? c).getD c.toNat
    if n < 0x100 then '\\' :: 'x' :: hexPadded 2 n
    else if n < 0x10000 then '\\' :: 'u' :: hexPadded 4 n
    else '\\' :: 'U' :: hexPadded 8 n

/-- A text between quotes. -/
def quoted (s : String) : String :=
  let cs := s.toList
  let q := quoteFor cs
  String.ofList (q :: cs.flatMap (quotedChar q) ++ [q])

/-- A byte between `q` quotes: ASCII characters that show are shown. -/
def quotedByte (q : Char) (b : UInt8) : List Char :=
  let c := Char.ofNat b.toNat
  if b.toNat < 0x7F then quotedChar q c else '\\' :: 'x' :: hexPadded 2 b.toNat

/-- A string of bytes between quotes. -/
def quotedBytes (bs : List UInt8) : String :=
  let q := quoteFor (bs.map fun b => Char.ofNat b.toNat)
  String.ofList ('b' :: q :: bs.flatMap (quotedByte q) ++ [q])

end Provision.Text
