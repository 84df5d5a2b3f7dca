import Provision.Number.Shortest
import Provision.Table

/-!
# Document values

* `Value`: what a document may hold. A map is a list of entries in the order of first insertion.
* `Value.opened`: a collection that contains itself, one step unrolled.
* `Value.sameKey`: equality of keys, under which `true`, `1` and `1.0` are one key.
* `Value.isTruthy`: what counts as set.
* `Value.kindName`: the word for the kind of a value in messages.
* `Value.toInteger`: the integer a value stands for, or why there is none.
* `Entries.get?`, `Entries.insert`: lookup in a map, and writing to it.
-/

namespace Provision

/-- A calendar day. -/
structure Day where
  year : Nat
  month : Nat
  day : Nat
deriving DecidableEq, Repr

/-- A time of a day, with the offset of its zone from the meridian in minutes, if it has a zone. -/
structure Moment where
  day : Day
  hour : Nat
  minute : Nat
  second : Nat
  microsecond : Nat
  offset : Option Int
deriving DecidableEq, Repr

/-- The number of a day, counted from a fixed one; years begin in March, so that the day a leap year
has more is its last. -/
def Day.number (d : Day) : Nat :=
  let year := if d.month ≤ 2 then d.year - 1 else d.year
  let month := (d.month + 9) % 12
  365 * year + year / 4 - year / 100 + year / 400 + (153 * month + 2) / 5 + d.day

/-- How many microseconds lie between a fixed moment and one with an offset. -/
def Moment.instant (t : Moment) (offset : Int) : Int :=
  let minutes : Int := (t.day.number * 24 + t.hour) * 60 + t.minute
  ((minutes - offset) * 60 + t.second) * 1000000 + t.microsecond

/-- Whether two moments are the same: at one instant, or written alike if they have no zone. -/
def Moment.same (t t' : Moment) : Bool :=
  match t.offset, t'.offset with
  | some m, some m' => t.instant m == t'.instant m'
  | none, none => t == t'
  | _, _ => false

/-- The brackets around a collection when it is written. -/
inductive Brackets where
  | square
  | curly
  | round
deriving DecidableEq, Repr

/-- A value of a document. -/
inductive Value where
  | null
  | bool (b : Bool)
  | int (n : Int)
  | float (x : Binary64)
  | str (s : String)
  | bytes (bs : List UInt8)
  | list (items : List Value)
  | tuple (items : List Value)
  | set (items : List Value)
  | map (entries : List (Value × Value))
  | day (d : Day)
  | moment (t : Moment)
  /-- A collection with a number of its own, which contains itself as `loop` with that number. -/
  | knot (number : Nat) (whole : Value)
  /-- The collection around it that has the given number. -/
  | loop (number : Nat) (brackets : Brackets)
deriving Inhabited, Repr

/-- The entries of a map, in the order in which their keys were first written. -/
abbrev Entries := List (Value × Value)

/-- Why a value cannot serve where it stands. -/
inductive Misfit where
  /-- The operation takes no value of this kind. -/
  | wrongKind
  /-- The kind is right, and the content is not. -/
  | wrongContent
  /-- An infinite number stands where an integer is needed. -/
  | infinite
  /-- The value has no such part or operation. -/
  | lacksPart
  /-- The text is none of those that the operation knows. -/
  | unlisted
  /-- The text ends too early. -/
  | tooShort
deriving DecidableEq, Repr

namespace Value

/-- The integer value of the numeric kinds, as far as keys go. -/
def keyNumber? : Value → Option Int
  | bool b => some (if b then 1 else 0)
  | int n => some n
  | _ => none

mutual

/-- Whether two values are one key of a map. -/
def sameKey : Value → Value → Bool
  | null, null => true
  | str s, str s' => s == s'
  | bytes bs, bytes bs' => bs == bs'
  | day d, day d' => d == d'
  | moment t, moment t' => t.same t'
  | float x, float y => x.Same y
  | float x, v => match v.keyNumber? with | some n => x.SameInt n | none => false
  | v, float y => match v.keyNumber? with | some n => y.SameInt n | none => false
  | tuple xs, tuple ys => sameKeys xs ys
  | list xs, list ys => sameKeys xs ys
  | v, w => match v.keyNumber?, w.keyNumber? with | some n, some m => n == m | _, _ => false

/-- Whether two lists hold the same keys in the same order. -/
def sameKeys : List Value → List Value → Bool
  | [], [] => true
  | x :: xs, y :: ys => sameKey x y && sameKeys xs ys
  | _, _ => false

end

mutual

/-- A value in which a whole collection stands wherever it is referred to by its number. -/
def fill (number : Nat) (whole : Value) : Value → Value
  | loop n b => if n = number then whole else loop n b
  | knot n v => if n = number then knot n v else knot n (fill number whole v)
  | list xs => list (fillItems number whole xs)
  | tuple xs => tuple (fillItems number whole xs)
  | map es => map (fillEntries number whole es)
  | v => v

/-- The same for the items of a list. -/
def fillItems (number : Nat) (whole : Value) : List Value → List Value
  | [] => []
  | v :: vs => fill number whole v :: fillItems number whole vs

/-- The same for the values of a map. -/
def fillEntries (number : Nat) (whole : Value) : List (Value × Value) → List (Value × Value)
  | [] => []
  | (k, v) :: es => (k, fill number whole v) :: fillEntries number whole es

end

/-- A collection with its items in sight: one that contains itself is unrolled by one step. -/
def opened : Value → Value
  | knot n v => fill n (knot n v) v
  | v => v

/-- Whether a value counts as set: nothing, zeros and everything empty do not. -/
def isTruthy : Value → Bool
  | null => false
  | bool b => b
  | int n => n != 0
  | float x => !x.isZero
  | str s => s != ""
  | bytes bs => !bs.isEmpty
  | list xs => !xs.isEmpty
  | tuple xs => !xs.isEmpty
  | set xs => !xs.isEmpty
  | map es => !es.isEmpty
  | _ => true

/-- Whether a value is absent. -/
def isNull : Value → Bool
  | null => true
  | _ => false

/-- The word for the kind of a value. -/
def kindName : Value → String
  | null => "NoneType"
  | bool _ => "bool"
  | int _ => "int"
  | float _ => "float"
  | str _ => "str"
  | bytes _ => "bytes"
  | list _ => "list"
  | tuple _ => "tuple"
  | set _ => "set"
  | map _ => "dict"
  | day _ => "date"
  | moment _ => "datetime"
  | knot _ v => kindName v
  | loop _ .square => "list"
  | loop _ .curly => "dict"
  | loop _ .round => "tuple"

/-- The integer that a value stands for: numbers lose their fraction, texts are decimal numerals. -/
def toInteger : Value → Except Misfit Int
  | bool b => .ok (if b then 1 else 0)
  | int n => .ok n
  | float .nan => .error .wrongContent
  | float (.infinite _) => .error .infinite
  | float (.finite s m e) => .ok (Binary64.truncate s m e)
  | str s => match Numeral.decimal? s with | some n => .ok n | none => .error .wrongContent
  | bytes bs =>
    match Numeral.decimalOfBytes? bs with
    | some n => .ok n
    | none => .error .wrongContent
  | _ => .error .wrongKind

end Value

namespace Entries

/-- The value of a key. -/
def get? (entries : Entries) (key : Value) : Option Value :=
  Table.get? (fun k => k.sameKey key) entries

/-- The value of a key that is a text. -/
def getText? (entries : Entries) (key : String) : Option Value := get? entries (.str key)

/-- The value of a key that is a text, absent keys counting as empty. -/
def field (entries : Entries) (key : String) : Value := (getText? entries key).getD .null

/-- Writes a value to a key: an old key keeps its place and its spelling. -/
def insert (entries : Entries) (key value : Value) : Entries :=
  Table.put (fun k => k.sameKey key) key value entries

/-- The map that writing all entries in turn makes. -/
def ofList (entries : List (Value × Value)) : Entries :=
  entries.foldl (fun es e => insert es e.1 e.2) []

end Entries

end Provision
