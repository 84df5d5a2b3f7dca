import Provision.Document.Cursor

/-!
# What a scalar without quotes stands for

* `Kind`: the kinds of nodes that a document may tag.
* `Kind.ofPlain`: the kind of a scalar that is neither quoted nor tagged, by its form.
* `timeParts?`: the parts of a scalar in the form of a day or a time.

The forms are those of the 1.1 core types: `yes` and `off` are truth values, a leading zero means
octal, colons part sixties, and a decimal point and a signed exponent make a floating-point number.
-/

namespace Provision.Document

/-- The kinds of nodes. -/
inductive Kind where
  | null
  | bool
  | int
  | float
  | binary
  | time
  | orderedPairs
  | pairs
  | set
  | str
  | sequence
  | mapping
  | merge
  | default
  /-- A kind that has no values here. -/
  | unknown
deriving DecidableEq, Repr

/-- What the names of all known kinds begin with. -/
def kindHead : String := "tag:yaml.org,2002:"

/-- The known kinds with their names. -/
def kindNames : List (String × Kind) := [
  ("null", .null), ("bool", .bool), ("int", .int), ("float", .float), ("binary", .binary),
  ("timestamp", .time), ("omap", .orderedPairs), ("pairs", .pairs), ("set", .set),
  ("str", .str), ("seq", .sequence), ("map", .mapping), ("merge", .merge), ("value", .default)]

/-- The kind that a tag names. -/
def Kind.ofTag (tag : String) : Kind :=
  match kindNames.find? fun p => kindHead ++ p.1 == tag with
  | some p => p.2
  | none => .unknown

/-! ## Forms -/

/-- A digit below a base, or a low line. -/
def isDigitOrLine (c : Char) : Bool := c.isDigit || c = '_'

/-- A text without its sign. -/
def dropSign : List Char → List Char
  | '+' :: r => r
  | '-' :: r => r
  | r => r

/-- The words for truth values, in lower case. -/
def truthWords : List (String × Bool) :=
  [("yes", true), ("no", false), ("true", true), ("false", false), ("on", true), ("off", false)]

/-- A word in lower case, in upper case, or with a capital. -/
def hasWordForm (word cs : List Char) : Bool :=
  cs = word || cs = word.map Char.toUpper ||
    (match word with
      | [] => false
      | c :: r => cs = c.toUpper :: r)

/-- One or more groups of sixty, each after a colon; a group has one digit, or two of which the
first is at most five. -/
def sixties? : List Char → Option (List Char)
  | ':' :: a :: b :: r =>
    if '0' ≤ a ∧ a ≤ '5' ∧ b.isDigit then
      match r with
      | ':' :: _ => sixties? r
      | _ => some r
    else if a.isDigit then
      match b with
      | ':' => sixties? (b :: r)
      | _ => some (b :: r)
    else none
  | [':', a] => if a.isDigit then some [] else none
  | _ => none

/-- An integer: binary, octal, decimal, hexadecimal or in sixties. -/
def isIntForm (cs : List Char) : Bool :=
  match dropSign cs with
  | ['0'] => true
  | '0' :: 'b' :: r => !r.isEmpty && r.all fun c => c = '0' || c = '1' || c = '_'
  | '0' :: 'x' :: r =>
    !r.isEmpty && r.all fun c =>
      c.isDigit || c = '_' || ('a' ≤ c && c ≤ 'f') || ('A' ≤ c && c ≤ 'F')
  | '0' :: r => r.all fun c => ('0' ≤ c && c ≤ '7') || c = '_'
  | d :: r =>
    d.isDigit && (r.all isDigitOrLine || sixties? (r.dropWhile isDigitOrLine) == some [])
  | [] => false

/-- An exponent with a sign, or nothing. -/
def isExponentForm : List Char → Bool
  | [] => true
  | e :: s :: r =>
    (e = 'e' || e = 'E') && (s = '+' || s = '-') && !r.isEmpty && r.all Char.isDigit
  | _ => false

/-- A floating-point number: with a point, in sixties with a point, infinite, or none at all. -/
def isFloatForm (cs : List Char) : Bool :=
  let r := dropSign cs
  let special (word : String) (t : List Char) : Bool :=
    match t with
    | '.' :: t => hasWordForm word.toList t
    | _ => false
  special "inf" r || cs = ".nan".toList || cs = ".NaN".toList || cs = ".NAN".toList ||
    (match cs with
      | '.' :: d :: t => d.isDigit && isExponentForm (t.dropWhile isDigitOrLine)
      | _ => false) ||
    (match r with
      | d :: t =>
        d.isDigit &&
          (match t.dropWhile isDigitOrLine with
            | '.' :: t => isExponentForm (t.dropWhile isDigitOrLine)
            | t =>
              match sixties? t with
              | some ('.' :: t) => t.all isDigitOrLine
              | _ => false)
      | [] => false)

/-- Nothing: empty, a tilde, or the word. -/
def isNullForm (cs : List Char) : Bool := cs.isEmpty || cs = ['~'] || hasWordForm "null".toList cs

/-! ## Days and times -/

/-- A time with the parts that were written. -/
structure TimeParts where
  year : List Char
  month : List Char
  day : List Char
  /-- Hour, minute, second and fraction. -/
  clock : Option (List Char × List Char × List Char × List Char)
  /-- Sign, hours and minutes of the offset; no sign for the meridian itself. -/
  zone : Option (Option Char × List Char × List Char)

/-- Exactly `n` digits. -/
def digits? : Nat → List Char → Option (List Char × List Char)
  | 0, r => some ([], r)
  | n + 1, c :: r => if c.isDigit then (digits? n r).map fun p => (c :: p.1, p.2) else none
  | _ + 1, [] => none

/-- One or two digits. -/
def shortDigits? (cs : List Char) : Option (List Char × List Char) :=
  match digits? 2 cs with
  | some p => some p
  | none => digits? 1 cs

/-- One character. -/
def mark? (x : Char) : List Char → Option (List Char)
  | c :: r => if c = x then some r else none
  | [] => none

/-- The offset of a zone, up to the end. -/
def zone? (cs : List Char) : Option (Option (Option Char × List Char × List Char)) :=
  match cs.dropWhile isSpaceOrTab with
  | ['Z'] => some (some (none, [], []))
  | s :: r =>
    if s = '+' || s = '-' then do
      let (hour, r) ← shortDigits? r
      match r with
      | [] => some (some (some s, hour, []))
      | ':' :: r =>
        let (minute, r) ← digits? 2 r
        if r.isEmpty then some (some (some s, hour, minute)) else none
      | _ => none
    else none
  | [] => if cs.isEmpty then some none else none

/-- The parts of a day, or of a day with a time. -/
def timeParts? (cs : List Char) : Option TimeParts := do
  let (year, r) ← digits? 4 cs
  let (month, r) ← shortDigits? (← mark? '-' r)
  let (day, r) ← shortDigits? (← mark? '-' r)
  if r.isEmpty then return ⟨year, month, day, none, none⟩
  let r ←
    match r with
    | 'T' :: r => some r
    | 't' :: r => some r
    | c :: r => if isSpaceOrTab c then some (r.dropWhile isSpaceOrTab) else none
    | [] => none
  let (hour, r) ← shortDigits? r
  let (minute, r) ← digits? 2 (← mark? ':' r)
  let (second, r) ← digits? 2 (← mark? ':' r)
  let (fraction, r) :=
    match r with
    | '.' :: r => (r.takeWhile Char.isDigit, r.dropWhile Char.isDigit)
    | r => ([], r)
  let zone ← zone? r
  return ⟨year, month, day, some (hour, minute, second, fraction), zone⟩

/-- A day with all its digits, or a day with a time. -/
def isTimeForm (cs : List Char) : Bool :=
  match timeParts? cs with
  | some p => p.clock.isSome || (p.month.length = 2 && p.day.length = 2)
  | none => false

/-! ## The kind of a plain scalar -/

/-- The kind of a scalar by its form; a line feed at its end does not count. -/
def Kind.ofPlain (text : String) : Kind :=
  let all := text.toList
  let cs := if all.getLast? = some '\n' then all.dropLast else all
  if all.isEmpty then .null
  else if truthWords.any fun w => hasWordForm w.1.toList cs then .bool
  else if isFloatForm cs then .float
  else if isIntForm cs then .int
  else if cs = ['<', '<'] then .merge
  else if !cs.isEmpty && isNullForm cs then .null
  else if isTimeForm cs then .time
  else if cs = ['='] then .default
  else if cs = ['!'] || cs = ['&'] || cs = ['*'] then .unknown
  else .str

end Provision.Document
