import Provision.Document.Cursor
import Provision.Text.Digit
import Provision.Text.Surrogate

/-!
# Reading scalars

* `quotedScalar`: a scalar between quotes.
* `plainScalar`: a scalar without quotes, which ends where something else begins.
* `blockScalar`: a scalar of whole lines, literal or folded.

Every loop moves on by at least a character a round, so the length of the text bounds it.
-/

namespace Provision.Document

/-! ## Between quotes -/

/-- What a letter after a backslash stands for. -/
def escapeOf? (c : Char) : Option Char :=
  match c with
  | '0' => some (Char.ofNat 0)
  | 'a' => some (Char.ofNat 7)
  | 'b' => some (Char.ofNat 8)
  | 't' => some '\t'
  | '\t' => some '\t'
  | 'n' => some '\n'
  | 'v' => some (Char.ofNat 11)
  | 'f' => some (Char.ofNat 12)
  | 'r' => some '\r'
  | 'e' => some (Char.ofNat 27)
  | ' ' => some ' '
  | '"' => some '"'
  | '\\' => some '\\'
  | '/' => some '/'
  | 'N' => some (Char.ofNat 0x85)
  | '_' => some (Char.ofNat 0xA0)
  | 'L' => some (Char.ofNat 0x2028)
  | 'P' => some (Char.ofNat 0x2029)
  | _ => none

/-- How many hexadecimal digits follow a letter after a backslash. -/
def escapeWidth? (c : Char) : Option Nat :=
  match c with
  | 'x' => some 2
  | 'u' => some 4
  | 'U' => some 8
  | _ => none

/-- The character with a code point in hexadecimal digits, which stand at the cursor; a surrogate is
carried by another character. -/
def codePoint (width : Nat) (c : Cursor) : Scan Char := do
  let ns ← (List.range width).mapM fun k => do orMalformed (Text.hexValue? (← c.ahead k))
  let n := ns.foldl (fun n d => n * 16 + d) 0
  if Text.isSurrogate n then return Text.surrogate n
  else if n.isValidChar then return Char.ofNat n
  else throw (.misfit (if n < 0x80000000 then .wrongContent else .infinite))

/-- Empty lines inside a quoted scalar; no document may begin or end there. -/
def quotedBreaks : Nat → Cursor → Scan (List Char × Cursor)
  | 0, _ => .error .malformed
  | fuel + 1, c => do
    if ← c.atBoundary then throw .malformed
    let c ← c.skipWhile isSpaceOrTab
    if isBreak (← c.peek) then
      let (b, c) ← c.lineBreak
      let (bs, c) ← quotedBreaks fuel c
      return (b ++ bs, c)
    else return ([], c)

/-- The gap inside a quoted scalar: blanks stay as they are, and a line end with its blanks becomes
a space or, with empty lines after it, those. -/
def quotedGap (c : Cursor) : Scan (List Char × Cursor) := do
  let blanks ← c.run isSpaceOrTab
  let c ← c.skip blanks.length
  let x ← c.peek
  if x = endMark then throw .malformed
  else if isBreak x then
    let (b, c) ← c.lineBreak
    let (bs, c) ← quotedBreaks (c.size + 1) c
    return ((if b != ['\n'] then b else if bs.isEmpty then [' '] else []) ++ bs, c)
  else return (blanks, c)

/-- A character that means nothing special between quotes. -/
def isOrdinary (x : Char) : Bool := !(isGapOrEnd x || x = '\'' || x = '"' || x = '\\')

/-- What a backslash and what follows it stand for; the cursor is behind the backslash. -/
def quotedEscape (c : Cursor) : Scan (List Char × Cursor) := do
  let y ← c.peek
  match escapeOf? y, escapeWidth? y with
  | some z, _ => return ([z], ← c.next)
  | none, some width =>
    let c ← c.next
    let z ← codePoint width c
    return ([z], ← c.skip width)
  | none, none =>
    if isBreak y then
      let (_, c) ← c.lineBreak
      quotedBreaks (c.size + 1) c
    else throw .malformed

/-- A piece of a scalar between quotes, and whether it is followed by more. -/
def quotedPiece (quote : Char) (c : Cursor) : Scan (List Char × Bool × Cursor) := do
  let goOn (r : List Char × Cursor) : List Char × Bool × Cursor := (r.1, true, r.2)
  let double := quote = '"'
  let x ← c.peek
  if isOrdinary x then
    let run ← c.run isOrdinary
    return goOn (run, ← c.skip run.length)
  if !double && x = '\'' then
    if (← c.ahead 1) = '\'' then return goOn (['\''], ← c.skip 2)
  if x = quote then return ([], false, ← c.next)
  else if x = '\'' || x = '"' || (x = '\\' && !double) then return goOn ([x], ← c.next)
  else if x = '\\' then return goOn (← quotedEscape (← c.next))
  else return goOn (← quotedGap c)

/-- The scalar up to its closing quote. -/
def quotedFrom (quote : Char) : Nat → Cursor → Scan (List Char × Cursor)
  | 0, _ => .error .malformed
  | fuel + 1, c => do
    let (piece, more, c) ← quotedPiece quote c
    if more then
      let (cs, c) ← quotedFrom quote fuel c
      return (piece ++ cs, c)
    else return (piece, c)

/-- A scalar between quotes. -/
def quotedScalar (c : Cursor) : Scan (String × Cursor) := do
  let (cs, c) ← quotedFrom (← c.peek) (c.size + 1) (← c.next)
  return (String.ofList cs, c)

/-! ## Plain -/

/-- The characters of a flow collection that a plain scalar cannot hold inside one. -/
def isFlowMark (x : Char) : Bool :=
  x = ',' || x = '?' || x = '[' || x = ']' || x = '\x7b' || x = '\x7d'

/-- What makes a colon end a plain scalar when it follows. -/
def endsKey (flow : Bool) (x : Char) : Bool :=
  isGapOrEnd x || (flow && (x = ',' || x = '[' || x = ']' || x = '\x7b' || x = '\x7d'))

/-- Whether a character ends a run of a plain scalar, if another one follows it. -/
def endsRun (flow : Bool) (x follower : Char) : Bool :=
  isGapOrEnd x || (x = ':' && endsKey flow follower) || (flow && isFlowMark x)

/-- The first characters of a text that make a run of a plain scalar. -/
def runOf (flow : Bool) : List Char → List Char
  | [] => []
  | x :: r => if endsRun flow x (r.headD endMark) then [] else x :: runOf flow r

/-- One run of characters of a plain scalar; what ends it has to be seen. -/
def plainRun (flow : Bool) (c : Cursor) : Scan (List Char) := do
  let run := runOf flow c.rest
  if (← c.ahead run.length) = ':' then
    let _ ← c.ahead (run.length + 1)
  return run

/-- The empty lines after a line of a plain scalar; nothing when a document begins or ends. -/
def plainBreaks : Nat → Cursor → Scan (Option (List Char) × Cursor)
  | 0, c => .ok (some [], c)
  | fuel + 1, c => do
    let x ← c.peek
    if x = ' ' then plainBreaks fuel (← c.next)
    else if isBreak x then
      let (b, c) ← c.lineBreak
      if ← c.atBoundary then return (none, c)
      let (bs, c) ← plainBreaks fuel c
      return (bs.map (b ++ ·), c)
    else return (some [], c)

/-- The gap after a run, and whether a line has ended in it; no gap when the scalar ends. -/
def plainGap (c : Cursor) : Scan (List Char × Bool × Cursor) := do
  let blanks ← c.run (· = ' ')
  let c ← c.skip blanks.length
  if isBreak (← c.peek) then
    let (b, c) ← c.lineBreak
    if ← c.atBoundary then return ([], true, c)
    match ← plainBreaks (c.size + 1) c with
    | (some bs, c) =>
      return ((if b != ['\n'] then b else if bs.isEmpty then [' '] else []) ++ bs, true, c)
    | (none, c) => return ([], true, c)
  else return (blanks, false, c)

/-- A plain scalar, whether a line has ended after its last run, and where to go on. A scalar goes
on over lines that are indented by at least `indent`; in a flow collection every line is. -/
def plainFrom (flow : Bool) (indent : Int) :
    Nat → List Char → Bool → Cursor → Scan (List Char × Bool × Cursor)
  | 0, _, ended, c => .ok ([], ended, c)
  | fuel + 1, gap, ended, c => do
    if (← c.peek) = '#' then return ([], ended, c)
    let run ← plainRun flow c
    if run.isEmpty then return ([], ended, c)
    let (after, ended, c) ← plainGap (← c.skip run.length)
    if after.isEmpty || (← c.peek) = '#' || (!flow && (c.column : Int) < indent) then
      return (gap ++ run, ended, c)
    let (rest, ended, c) ← plainFrom flow indent fuel after ended c
    return (gap ++ run ++ rest, ended, c)

/-- A plain scalar, and whether a line has ended after its last run. -/
def plainScalar (flow : Bool) (indent : Int) (c : Cursor) : Scan (String × Bool × Cursor) := do
  let (cs, ended, c) ← plainFrom flow indent (c.size + 1) [] false c
  return (String.ofList cs, ended, c)

/-! ## Whole lines -/

/-- What becomes of the line ends behind a block scalar. -/
inductive Chomp where
  | clip
  | strip
  | keep
deriving DecidableEq, Repr

/-- The chomping that a sign asks for. -/
def chompOf? (x : Char) : Option Chomp :=
  if x = '+' then some .keep else if x = '-' then some .strip else none

/-- The indentation that a digit asks for; zero is none. -/
def widthOf? (x : Char) : Option Nat :=
  if '1' ≤ x ∧ x ≤ '9' then some (x.toNat - 48) else none

/-- The sign at the cursor, if it is one of those that `read` knows. -/
def signAt {α : Type} (read : Char → Option α) (c : Cursor) : Scan (Option α × Cursor) := do
  match read (← c.peek) with
  | some a => return (some a, ← c.next)
  | none => return (none, c)

/-- The signs after the indicator of a block scalar, in either order. -/
def blockHeader (c : Cursor) : Scan (Chomp × Option Nat × Cursor) := do
  let (before, c) ← signAt chompOf? c
  let (width, c) ← signAt widthOf? c
  let (after, c) ← if before.isNone && width.isSome then signAt chompOf? c else pure (none, c)
  if isSpaceOrEnd (← c.peek) then return ((before.or after).getD .clip, width, c)
  else throw .malformed

/-- The rest of a line that may hold only blanks and a comment. -/
def idleLine (c : Cursor) : Scan Cursor := do
  let c ← c.skipWhile (· = ' ')
  let c ← if (← c.peek) = '#' then c.skipWhile (!isBreakOrEnd ·) else pure c
  if isBreakOrEnd (← c.peek) then return (← c.lineBreak).2 else throw .malformed

/-- The empty lines before the first line of a block scalar, and the deepest indentation seen. -/
def leadingBreaks : Nat → Nat → Cursor → Scan (List Char × Nat × Cursor)
  | 0, deepest, c => .ok ([], deepest, c)
  | fuel + 1, deepest, c => do
    let x ← c.peek
    if x = ' ' then
      let c ← c.next
      leadingBreaks fuel (max deepest c.column) c
    else if isBreak x then
      let (b, c) ← c.lineBreak
      let (bs, deepest, c) ← leadingBreaks fuel deepest c
      return (b ++ bs, deepest, c)
    else return ([], deepest, c)

/-- Moves over the indentation of a line, as far as it goes. -/
def skipIndent (indent : Nat) (c : Cursor) : Scan Cursor := do
  c.skip (min (indent - c.column) (c.rest.takeWhile (· = ' ')).length)

/-- The empty lines between two lines of a block scalar. -/
def blockBreaks (indent : Nat) : Nat → Cursor → Scan (List Char × Cursor)
  | 0, c => .ok ([], c)
  | fuel + 1, c => do
    let c ← skipIndent indent c
    if isBreak (← c.peek) then
      let (b, c) ← c.lineBreak
      let (bs, c) ← blockBreaks indent fuel c
      return (b ++ bs, c)
    else return ([], c)

/-- Whether a line of a block scalar stands here. -/
def atBlockLine (indent : Nat) (c : Cursor) : Scan Bool := do
  if c.column = indent then return (← c.peek) != endMark else return false

/-- The lines of a block scalar from one on that is indented; `breaks` stand before it. -/
def blockLines (folded : Bool) (indent : Nat) (chomp : Chomp) :
    Nat → List Char → Cursor → Scan (List Char × Cursor)
  | 0, _, c => .ok ([], c)
  | fuel + 1, breaks, c => do
    let solid := !isSpaceOrTab (← c.peek)
    let row ← c.run (!isBreakOrEnd ·)
    let (b, c) ← (← c.skip row.length).lineBreak
    let (bs, c) ← blockBreaks indent (c.size + 1) c
    if ← atBlockLine indent c then
      let joint :=
        if folded && b = ['\n'] && solid && !isSpaceOrTab (← c.peek) then
          if bs.isEmpty then [' '] else []
        else b
      let (rest, c) ← blockLines folded indent chomp fuel bs c
      return (breaks ++ row ++ joint ++ rest, c)
    else
      let tail :=
        match chomp with
        | .clip => b
        | .strip => []
        | .keep => b ++ bs
      return (breaks ++ row ++ tail, c)

/-- A scalar of whole lines; `parent` is the indentation of the collection around it. -/
def blockScalar (folded : Bool) (parent : Int) (c : Cursor) : Scan (String × Cursor) := do
  let (chomp, width, c) ← blockHeader (← c.next)
  let c ← idleLine c
  let least := (max (parent + 1) 1).toNat
  let (breaks, indent, c) ←
    match width with
    | none => do
      let (bs, deepest, c) ← leadingBreaks (c.size + 1) 0 c
      pure (bs, max least deepest, c)
    | some n => do
      let indent := least + n - 1
      let (bs, c) ← blockBreaks indent (c.size + 1) c
      pure (bs, indent, c)
  if ← atBlockLine indent c then
    let (cs, c) ← blockLines folded indent chomp (c.size + 1) breaks c
    return (String.ofList cs, c)
  else
    return (String.ofList (if chomp = .keep then breaks else []), c)

end Provision.Document
