import Provision.Document.Token
import Provision.Document.Token.Scalar
import Provision.Number.Numeral
import Provision.Text.Utf8

/-!
# Reading tags, names and directives

* `nameAfter`: the name of an anchor or of a reference to one.
* `tagAt`: a tag.
* `directiveAt`: a directive, with the line it stands on.
-/

namespace Provision.Document

/-- The characters that may follow the name of an anchor. -/
def endsName (x : Char) : Bool :=
  isGapOrEnd x || x = '?' || x = ':' || x = ',' || x = ']' || x = '\x7d' || x = '%' || x = '@' ||
    x.toNat = 0x60

/-- A name of at least one character at the cursor. -/
def nameAt (c : Cursor) : Scan (String × Cursor) := do
  let name ← c.run isWord
  if name.isEmpty then throw .malformed
  return (String.ofList name, ← c.skip name.length)

/-- The name after an indicator. -/
def nameAfter (c : Cursor) : Scan (String × Cursor) := do
  let (name, c) ← nameAt (← c.next)
  if endsName (← c.peek) then return (name, c) else throw .malformed

/-- Goes on only at a space, a line end or the end of the text. -/
def requireSpace (c : Cursor) : Scan Unit := do
  if isSpaceOrEnd (← c.peek) then return () else throw .malformed

/-! ## Tags -/

/-- The characters of a tag besides those of a name. -/
def tagMarks : List Char := "-;/?:@&=+$,_.!~*'()[]".toList

/-- A character of a tag that stands for itself. -/
def isTagChar (x : Char) : Bool := x.isAlphanum || tagMarks.contains x

/-- The bytes of escapes with a percent sign, and what follows them. -/
def percentBytes : Nat → Cursor → Scan (List UInt8 × Cursor)
  | 0, c => .ok ([], c)
  | fuel + 1, c => do
    if (← c.peek) = '%' then
      let c ← c.next
      let hi ← orMalformed (Text.hexValue? (← c.peek))
      let lo ← orMalformed (Text.hexValue? (← c.ahead 1))
      let (bs, c) ← percentBytes fuel (← c.skip 2)
      return (UInt8.ofNat (hi * 16 + lo) :: bs, c)
    else return ([], c)

/-- The text of a tag, in which escapes stand for the characters that their bytes encode. -/
def tagText : Nat → Cursor → Scan (List Char × Cursor)
  | 0, c => .ok ([], c)
  | fuel + 1, c => do
    if (← c.peek) = '%' then
      let (bs, c) ← percentBytes (fuel + 1) c
      let cs ← orMalformed (Text.decodeUtf8? bs)
      let (more, c) ← tagText fuel c
      return (cs ++ more, c)
    else
      let run ← c.run isTagChar
      if run.isEmpty then return ([], c)
      let (more, c) ← tagText fuel (← c.skip run.length)
      return (run ++ more, c)

/-- The suffix of a tag. -/
def tagSuffix (c : Cursor) : Scan (String × Cursor) := do
  let (cs, after) ← tagText (c.size + 1) c
  if after.index = c.index then throw .malformed
  return (String.ofList cs, after)

/-- The handle of a tag, between exclamation marks or a single one. -/
def tagHandle (c : Cursor) : Scan (String × Cursor) := do
  if (← c.peek) != '!' then throw .malformed
  if (← c.ahead 1) = ' ' then return ("!", ← c.next)
  let name ← (← c.next).run isWord
  if (← c.ahead (name.length + 1)) = '!' then
    return (String.ofList ('!' :: name ++ ['!']), ← c.skip (name.length + 2))
  else throw .malformed

/-- A tag: verbatim between brackets, the mark of no tag, or a handle and a suffix. -/
def tagAt (c : Cursor) : Scan ((Option String × String) × Cursor) := do
  let x ← c.ahead 1
  let (tag, c) ←
    if x = '<' then do
      let (suffix, c) ← tagSuffix (← c.skip 2)
      if (← c.peek) = '>' then pure ((none, suffix), ← c.next) else throw .malformed
    else if isGapOrEnd x then do pure ((none, "!"), ← c.next)
    else do
      let before ← (← c.next).run fun y => y != '!' && !isSpaceOrEnd y
      let hasHandle := (← c.ahead (before.length + 1)) = '!'
      let (handle, c) ← if hasHandle then tagHandle c else do pure ("!", ← c.next)
      let (suffix, c) ← tagSuffix c
      pure ((some handle, suffix), c)
  requireSpace c
  return (tag, c)

/-! ## Directives -/

/-- A number of a version. -/
def versionNumber (c : Cursor) : Scan (Int × Cursor) := do
  let ds ← c.run Char.isDigit
  if ds.isEmpty then throw .malformed
  match Numeral.decimal? (String.ofList ds) with
  | some n => return (n, ← c.skip ds.length)
  | none => throw (.misfit .wrongContent)

/-- The version that a document asks for. -/
def versionAt (c : Cursor) : Scan (Directive × Cursor) := do
  let (major, c) ← versionNumber (← c.skipWhile (· = ' '))
  if (← c.peek) != '.' then throw .malformed
  let (_, c) ← versionNumber (← c.next)
  requireSpace c
  return (.version major, c)

/-- A handle for tags with what it stands for. -/
def handleAt (c : Cursor) : Scan (Directive × Cursor) := do
  let (name, c) ← tagHandle (← c.skipWhile (· = ' '))
  if (← c.peek) != ' ' then throw .malformed
  let (expansion, c) ← tagSuffix (← c.skipWhile (· = ' '))
  requireSpace c
  return (.handle name expansion, c)

/-- A directive, with the line it stands on. -/
def directiveAt (c : Cursor) : Scan (Directive × Cursor) := do
  let (name, c) ← nameAt (← c.next)
  requireSpace c
  let (directive, c) ←
    if name = "YAML" then versionAt c
    else if name = "TAG" then handleAt c
    else do pure (.unknown, ← c.skipWhile (!isBreakOrEnd ·))
  return (directive, ← idleLine c)

end Provision.Document
