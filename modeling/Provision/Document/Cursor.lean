import Provision.Document.Source

/-!
# Reading positions

* `Cursor`: what is left of a text, with the position reached.
* `Cursor.peek`, `Cursor.next`, `Cursor.skip`, `Cursor.run`: looking at it and moving on.
* `isBreak`, `isGapOrEnd`: the characters that part words and lines.

The end of the text reads as the null character, which no document holds, and all line ends have
been unified before. Moving on looks at the character moved to, so a fault behind the text shows
there already.
-/

namespace Provision.Document

/-- What stands for the character behind the end. -/
def endMark : Char := Char.ofNat 0

/-- A character that ends a line. -/
def isBreak (c : Char) : Bool :=
  c = '\n' || c.toNat = 0x85 || c.toNat = 0x2028 || c.toNat = 0x2029

/-- A line end, or the end of the text. -/
def isBreakOrEnd (c : Char) : Bool := c = endMark || isBreak c

/-- A space or a tab. -/
def isSpaceOrTab (c : Char) : Bool := c = ' ' || c = '\t'

/-- A character that parts words, or the end of the text. -/
def isGapOrEnd (c : Char) : Bool := isSpaceOrTab c || isBreakOrEnd c

/-- A space, a line end or the end of the text. -/
def isSpaceOrEnd (c : Char) : Bool := c = ' ' || isBreakOrEnd c

/-- A character of a name. -/
def isWord (c : Char) : Bool := c.isAlphanum || c = '-' || c = '_'

/-- What is left of a text, and the position reached. -/
structure Cursor where
  /-- The length of the whole text, which bounds every loop over it. -/
  size : Nat
  rest : List Char
  /-- The fault that shows when more than the text is asked for. -/
  beyond : Option DocumentFault
  index : Nat
  line : Nat
  column : Nat

namespace Cursor

/-- The beginning of a text. -/
def start (s : Source) : Cursor := ⟨s.chars.length, s.chars, s.beyond, 0, 0, 0⟩

/-- The character some places ahead. -/
def ahead (c : Cursor) (n : Nat) : Scan Char :=
  match c.rest[n]?, c.beyond with
  | some x, _ => .ok x
  | none, some f => .error f
  | none, none => .ok endMark

/-- The character at hand. -/
def peek (c : Cursor) : Scan Char := c.ahead 0

/-- The position behind a character; a byte order mark takes no column. -/
def behind (c : Cursor) (x : Char) (r : List Char) : Cursor :=
  if isBreak x then ⟨c.size, r, c.beyond, c.index + 1, c.line + 1, 0⟩
  else
    ⟨c.size, r, c.beyond, c.index + 1, c.line, if x.toNat = 0xFEFF then c.column else c.column + 1⟩

/-- The position some characters on. -/
def moved (c : Cursor) : Nat → Cursor
  | 0 => c
  | n + 1 =>
    match c.rest with
    | [] => c
    | x :: r => (c.behind x r).moved n

/-- Moves on by some characters, up to one that can be seen. -/
def skip (c : Cursor) (n : Nat) : Scan Cursor := do
  let _ ← c.ahead n
  return c.moved n

/-- Moves on by one character. -/
def next (c : Cursor) : Scan Cursor := c.skip 1

/-- The characters up to the first that fails `p`, which has to be seen. -/
def run (c : Cursor) (p : Char → Bool) : Scan (List Char) := do
  let cs := c.rest.takeWhile p
  let _ ← c.ahead cs.length
  return cs

/-- Moves on to the first character that fails `p`. -/
def skipWhile (c : Cursor) (p : Char → Bool) : Scan Cursor := do c.skip (← c.run p).length

/-- Moves over a line end, which reads as a line feed unless it is a separator of its own. -/
def lineBreak (c : Cursor) : Scan (List Char × Cursor) := do
  let x ← c.peek
  if x = '\n' || x.toNat = 0x85 then return (['\n'], ← c.next)
  else if isBreak x then return ([x], ← c.next)
  else return ([], c)

/-- Whether three characters stand here, with a gap behind them. -/
def marks (c : Cursor) (x : Char) : Scan Bool := do
  let third ← c.ahead 2
  if c.rest.take 2 = [x, x] && third = x then return isGapOrEnd (← c.ahead 3) else return false

/-- Whether a document begins or ends here. -/
def atBoundary (c : Cursor) : Scan Bool := do
  if ← c.marks '-' then return true else c.marks '.'

end Cursor

end Provision.Document
