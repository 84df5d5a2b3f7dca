import Provision.Document.Fault
import Provision.Text.Utf8

/-!
# Reading a file in portions

A file is read in portions of 4096 characters, and a portion only when a character of it is asked
for. What is wrong with a portion shows as soon as it is read; until then the reader may come upon
another fault.

* `Supply`: a file of which some bytes have been read.
* `Supply.portion`: the next portion of its text.
* `Source`: the characters that can be read, and the fault behind them.
* `Source.ofBytes`: the text of a file, without a byte order mark and with every line end as `\n`.
-/

namespace Provision.Document

/-- The characters that a document may hold. -/
def isDocumentChar (c : Char) : Bool :=
  let n := c.toNat
  n = 0x09 || n = 0x0A || n = 0x0D || (0x20 ≤ n && n ≤ 0x7E) || n = 0x85 ||
    (0xA0 ≤ n && n ≤ 0xD7FF) || (0xE000 ≤ n && n ≤ 0xFFFD) || 0x10000 ≤ n

/-- A file of which some bytes have been read. -/
structure Supply where
  /-- The bytes still to be read. -/
  bytes : List UInt8
  begun : Option Text.Begun
  /-- No character has been read yet, so that a byte order mark may come. -/
  fresh : Bool
  /-- The last character was a carriage return, to which a line feed may belong. -/
  held : Bool
  /-- The characters that have been read and not been handed out. -/
  ready : Array Char
  /-- How many bytes the last stretch had, and how many characters. -/
  density : Nat × Nat

namespace Supply

/-- A file before reading; the first bytes of a byte order mark alone count for nothing. -/
def start (bytes : List UInt8) : Supply :=
  ⟨if bytes = [0xEF] ∨ bytes = [0xEF, 0xBB] then [] else bytes, none, true, false, #[], (0, 0)⟩

/-- Adds a character. A carriage return, alone or before a line feed, becomes one line feed. -/
def add (s : Supply) (c : Char) : Supply :=
  if s.fresh && c.toNat = 0xFEFF then { s with fresh := false }
  else
    let s := { s with fresh := false }
    if s.held && c = '\n' then { s with held := false, ready := s.ready.push c }
    else
      let ready := if s.held then s.ready.push '\n' else s.ready
      if c = '\r' then { s with held := true, ready := ready }
      else { s with held := false, ready := ready.push c }

/-- Reads one byte. -/
def readByte (s : Supply) (b : UInt8) : Scan Supply :=
  match Text.utf8Step? s.begun b with
  | none => .error .undecodable
  | some (begun, none) => .ok { s with begun := begun }
  | some (begun, some c) => .ok ({ s with begun := begun }.add c)

/-- How many characters a portion has. -/
def portionSize : Nat := 4096

/-- How many bytes are read at a time: 8192, or more if the last stretch shows that more are
needed for the characters that a portion lacks. -/
def stretch (s : Supply) : Nat :=
  let lacking := portionSize - s.ready.size
  let (bytes, chars) := s.density
  max 8192 (if chars = 0 then lacking else lacking * bytes / chars)

/-- The end of the file: no character may be incomplete. -/
def finish (s : Supply) : Scan Supply :=
  if s.begun.isSome then .error .undecodable
  else .ok { s with held := false, ready := if s.held then s.ready.push '\n' else s.ready }

/-- Reads bytes until a portion is ready, or up to the end of the file. -/
def fill : Nat → Supply → Scan Supply
  | 0, s => .ok s
  | fuel + 1, s =>
    if portionSize ≤ s.ready.size then .ok s
    else
      match s.bytes.take s.stretch with
      | [] => s.finish
      | taken => do
        let t ← taken.foldlM readByte { s with bytes := s.bytes.drop s.stretch }
        fill fuel { t with density := (taken.length, t.ready.size - s.ready.size) }

/-- The next portion, which is empty only at the end of the file. -/
def portion (s : Supply) : Scan (List Char × Supply) := do
  let s ← s.fill (s.bytes.length + 2)
  return ((s.ready.extract 0 portionSize).toList,
    { s with ready := s.ready.extract portionSize s.ready.size })

/-- The next two portions. -/
def twoPortions (s : Supply) : Scan (List Char × Supply) := do
  let (cs, s) ← s.portion
  let (more, s) ← s.portion
  return (cs ++ more, s)

end Supply

/-- The characters of a file that can be read, and the fault that shows when more is asked for;
there is none when the file ends behind them. -/
structure Source where
  chars : List Char
  beyond : Option DocumentFault
deriving DecidableEq, Repr

namespace Source

/-- A text that has been read, followed by what can still be read. -/
def after (r : Scan (List Char × Supply)) (rest : Supply → Source) : Source :=
  match r with
  | .error f => ⟨[], some f⟩
  | .ok (cs, s) =>
    if cs.all isDocumentChar then
      if cs.isEmpty then ⟨[], none⟩
      else
        let more := rest s
        ⟨cs ++ more.chars, more.beyond⟩
    else ⟨[], some .malformed⟩

/-- What can be read from a supply, portion by portion. -/
def ofSupply : Nat → Supply → Source
  | 0, _ => ⟨[], none⟩
  | fuel + 1, s => after s.portion (ofSupply fuel)

/-- The text of a file. The first two portions are read together, since the first alone tells
nothing about the encoding of a file with a single character. -/
def ofBytes (bytes : List UInt8) : Source :=
  after (Supply.start bytes).twoPortions (ofSupply (bytes.length + 1))

end Source

end Provision.Document
