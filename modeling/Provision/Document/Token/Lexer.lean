import Provision.Document.Token.Scalar
import Provision.Document.Token.Tag

/-!
# From text to tokens

* `Lexer`: the state between two tokens: indentation, nesting, and where a key may have begun.
* `Lexer.step`: reads one token, with the marks that precede it.
* `Tokens.ofSource`: the tokens of a text, up to the first fault in it.

Whether a word is a key shows only at the colon behind it, so the place where a key may have begun
is kept for every level of nesting, and its mark is put in when the colon comes. A key has to end on
its line and within 1024 characters. Until then no token from that place on can be handed out, so a
fault that comes up first hides these tokens.
-/

namespace Provision.Document

/-- Where a key may have begun. -/
structure KeyStart where
  /-- How deep in flow collections. -/
  level : Nat
  /-- How many tokens come before it. -/
  position : Nat
  /-- A colon has to follow. -/
  required : Bool
  index : Nat
  line : Nat
  column : Nat

/-- The state between two tokens. -/
structure Lexer where
  cursor : Cursor
  tokens : Array Token
  /-- The indentation of the innermost block collection, and those around it. -/
  indent : Int
  indents : List Int
  /-- How deep in flow collections. -/
  flow : Nat
  keyAllowed : Bool
  keys : List KeyStart

namespace Lexer

/-- Before the first token. -/
def start (s : Source) : Lexer := ⟨.start s, #[], -1, [], 0, true, []⟩

/-- Adds a token. -/
def push (l : Lexer) (t : Token) : Lexer := { l with tokens := l.tokens.push t }

/-- Moves on to a position. -/
def moveTo (l : Lexer) (c : Cursor) : Lexer := { l with cursor := c }

/-- Moves on by some characters and adds a token. -/
def take (l : Lexer) (n : Nat) (t : Token) : Scan Lexer := do
  return (l.moveTo (← l.cursor.skip n)).push t

/-- Allows or forbids a key to begin. -/
def allowKey (l : Lexer) (b : Bool) : Lexer := { l with keyAllowed := b }

/-- Moves over blanks, comments and line ends to the next token. -/
def skipIdle : Nat → Lexer → Scan Lexer
  | 0, l => .ok l
  | fuel + 1, l => do
    let c ← l.cursor.skipWhile (· = ' ')
    let c ← if (← c.peek) = '#' then c.skipWhile (!isBreakOrEnd ·) else pure c
    if isBreak (← c.peek) then
      let (_, c) ← c.lineBreak
      skipIdle fuel { l with cursor := c, keyAllowed := l.keyAllowed || l.flow = 0 }
    else return l.moveTo c

/-- Moves over a byte order mark at the very start. -/
def skipMark (l : Lexer) : Scan Lexer := do
  if l.cursor.index = 0 && (← l.cursor.peek).toNat = 0xFEFF then return l.moveTo (← l.cursor.next)
  else return l

/-- Whether a key can no longer be continued here. -/
def isStale (l : Lexer) (k : KeyStart) : Bool :=
  k.line != l.cursor.line || l.cursor.index - k.index > 1024

/-- Forgets keys that can no longer be continued; a required one makes the text malformed. -/
def dropStale (l : Lexer) : Scan Lexer :=
  if l.keys.any fun k => l.isStale k && k.required then .error .malformed
  else .ok { l with keys := l.keys.filter fun k => !l.isStale k }

/-- Closes the block collections that are indented deeper than a column. -/
def unwind (l : Lexer) (column : Int) : Nat → Lexer
  | 0 => l
  | fuel + 1 =>
    if l.flow = 0 && l.indent > column then
      unwind (({ l with indent := l.indents.headD (-1), indents := l.indents.tail }).push .blockEnd)
        column fuel
    else l

/-- Closes the block collections that are indented deeper than a column. -/
def unwindTo (l : Lexer) (column : Int) : Lexer := l.unwind column (l.indents.length + 1)

/-- Opens a block collection at a column, unless one is open there. -/
def addIndent (l : Lexer) (column : Int) : Option Lexer :=
  if l.indent < column then some { l with indent := column, indents := l.indent :: l.indents }
  else none

/-- Forgets the key of the current level; a required one makes the text malformed. -/
def dropKey (l : Lexer) : Scan Lexer :=
  if l.keys.any fun k => k.level = l.flow && k.required then .error .malformed
  else .ok { l with keys := l.keys.filter fun k => k.level != l.flow }

/-- Notes that a key may begin here. -/
def saveKey (l : Lexer) : Scan Lexer :=
  if l.keyAllowed then do
    let l ← l.dropKey
    let c := l.cursor
    let required := l.flow = 0 && l.indent = (c.column : Int)
    let key := ⟨l.flow, l.tokens.size, required, c.index, c.line, c.column⟩
    return { l with keys := l.keys ++ [key] }
  else .ok l

/-- Puts a token in before those from a position on. -/
def insertAt (l : Lexer) (position : Nat) (t : Token) : Lexer :=
  { l with tokens := l.tokens.insertIdxIfInBounds position t }

/-- Closes everything before a directive, a boundary or the end. -/
def settle (l : Lexer) : Scan Lexer := do return (← (l.unwindTo (-1)).dropKey).allowKey false

/-! ## Indicators -/

/-- The start of a flow collection, which may be a key. -/
def openFlow (l : Lexer) (t : Token) : Scan Lexer := do
  let l ← l.saveKey
  ({ l with flow := l.flow + 1, keyAllowed := true }).take 1 t

/-- The end of a flow collection. -/
def closeFlow (l : Lexer) (t : Token) : Scan Lexer := do
  if l.flow = 0 then throw .malformed
  let l ← l.dropKey
  ({ l with flow := l.flow - 1, keyAllowed := false }).take 1 t

/-- A comma of a flow collection. -/
def flowEntry (l : Lexer) : Scan Lexer := do (← (l.allowKey true).dropKey).take 1 .flowEntry

/-- Opens the block collection of an entry or a key, where one may begin. -/
def enterBlock (l : Lexer) (t : Token) : Scan Lexer :=
  if l.flow != 0 then .ok l
  else if l.keyAllowed then
    match l.addIndent l.cursor.column with
    | some l => .ok (l.push t)
    | none => .ok l
  else .error .malformed

/-- A dash of a block sequence. -/
def blockEntry (l : Lexer) : Scan Lexer := do
  let l ← l.enterBlock .blockSequence
  (← (l.allowKey true).dropKey).take 1 .blockEntry

/-- A question mark before a key. -/
def explicitKey (l : Lexer) : Scan Lexer := do
  let l ← l.enterBlock .blockMapping
  (← (l.allowKey (l.flow = 0)).dropKey).take 1 .key

/-- A colon: what stands before it on this level is a key, or else the key is empty. -/
def value (l : Lexer) : Scan Lexer :=
  match l.keys.find? fun k => k.level = l.flow with
  | some k =>
    let l := { l with keys := l.keys.filter fun k => k.level != l.flow }
    let l := l.insertAt k.position .key
    let l :=
      if l.flow = 0 then
        match l.addIndent k.column with
        | some l => l.insertAt k.position .blockMapping
        | none => l
      else l
    (l.allowKey false).take 1 .value
  | none => do
    let l ← l.enterBlock .blockMapping
    (← (l.allowKey (l.flow = 0)).dropKey).take 1 .value

/-- A word that may be a key: how it is read from the cursor, and the token that it makes. -/
def word {α : Type} (l : Lexer) (read : Cursor → Scan (α × Cursor)) (token : α → Token) :
    Scan Lexer := do
  let l ← l.saveKey
  let (a, c) ← read l.cursor
  return ((l.allowKey false).moveTo c).push (token a)

/-! ## One token -/

/-- Whether a dash, question mark or colon stands alone here. -/
def standsAlone (l : Lexer) : Scan Bool := do return isGapOrEnd (← l.cursor.ahead 1)

/-- The characters that begin nothing. -/
def reserved : List Char := "#%@\x60".toList

/-- Nothing begins with the character at the cursor, whatever follows it. -/
def nothing (l : Lexer) : Scan Lexer := do
  let _ ← l.cursor.ahead 1
  throw .malformed

/-- A plain scalar. -/
def plain (l : Lexer) : Scan Lexer := do
  let l ← l.saveKey
  let (text, ended, c) ← plainScalar (l.flow != 0) (l.indent + 1) l.cursor
  return ((l.allowKey ended).moveTo c).push (.scalar text true)

/-- A scalar of whole lines, after which a key may begin. -/
def block (l : Lexer) (folded : Bool) : Scan Lexer := do
  let l ← (l.allowKey true).dropKey
  let (text, c) ← blockScalar folded l.indent l.cursor
  return (l.moveTo c).push (.scalar text false)

/-- A directive. -/
def directive (l : Lexer) : Scan Lexer := do
  let l ← l.settle
  let (d, c) ← directiveAt l.cursor
  return (l.moveTo c).push (.directive d)

/-- The mark of a document's start or end, if one stands at the beginning of this line. -/
def boundary? (l : Lexer) (x : Char) : Scan (Option Token) := do
  if l.cursor.column != 0 then return none
  else if x = '-' then return if ← l.cursor.marks x then some .documentStart else none
  else if x = '.' then return if ← l.cursor.marks x then some .documentEnd else none
  else return none

/-- Reads one token at the cursor, which stands on its first character `x`. -/
def token (l : Lexer) (x : Char) : Scan Lexer := do
  let flow := l.flow != 0
  if x = '%' && l.cursor.column = 0 then return ← l.directive
  if let some t ← l.boundary? x then return ← (← l.settle).take 3 t
  match x with
  | '[' => l.openFlow .flowSequence
  | '\x7b' => l.openFlow .flowMapping
  | ']' => l.closeFlow .flowSequenceEnd
  | '\x7d' => l.closeFlow .flowMappingEnd
  | ',' => l.flowEntry
  | '*' => l.word nameAfter .reference
  | '&' => l.word nameAfter .anchor
  | '!' => l.word tagAt fun t => .tag t.1 t.2
  | '\'' => l.word quotedScalar (.scalar · false)
  | '"' => l.word quotedScalar (.scalar · false)
  | '|' => if flow then l.nothing else l.block false
  | '>' => if flow then l.nothing else l.block true
  | '-' => if ← l.standsAlone then l.blockEntry else l.plain
  | '?' => if flow then l.explicitKey else if ← l.standsAlone then l.explicitKey else l.plain
  | ':' => if flow then l.value else if ← l.standsAlone then l.value else l.plain
  | _ => if isGapOrEnd x || reserved.contains x then l.nothing else l.plain

/-- Moves on to the next token and reads it; at the end of the text nothing is left to read. -/
def step (l : Lexer) : Scan (Lexer × Bool) := do
  let l ← (← l.skipMark).skipIdle (l.cursor.size + 1)
  let l ← l.dropStale
  let l := l.unwindTo l.cursor.column
  let x ← l.cursor.peek
  if x = endMark then return (← l.settle, true)
  else return (← (← l.token x).dropStale, false)

/-- How many tokens can be handed out: those before the first place where a key may have begun. -/
def certain (l : Lexer) : Nat := l.keys.foldl (fun n k => min n k.position) l.tokens.size

/-- Reads tokens up to the end of the text or the first fault. -/
def finish : Nat → Lexer → Tokens
  | 0, l => ⟨l.tokens.toList, some .malformed⟩
  | fuel + 1, l =>
    match l.step with
    | .ok (l, true) => ⟨l.tokens.toList, none⟩
    | .ok (l, false) => finish fuel l
    | .error f => ⟨l.tokens.toList.take l.certain, some f⟩

end Lexer

/-- The tokens of a text, up to the first fault in it. -/
def Tokens.ofSource (s : Source) : Tokens := Lexer.finish (s.chars.length + 2) (.start s)

end Provision.Document
