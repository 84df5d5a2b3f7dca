import Provision.Text.Quoted
import Provision.Value.Basic

/-!
# The text of a value

* `Value.shown`: a value as it appears inside another one, with texts between quotes.
* `Value.text`: a value on its own, where a text stands for itself.
* `Value.isWritable`, `Value.text?`: whether a value has a text, and that text.
-/

namespace Provision

/-- A number with zeros in front, up to `width` digits. -/
def padded (width n : Nat) : String :=
  let ds := (toString n).toList
  String.ofList (List.replicate (width - ds.length) '0' ++ ds)

namespace Day

/-- Year, month and day. -/
def text (d : Day) : String :=
  Text.join "-" [padded 4 d.year, padded 2 d.month, padded 2 d.day]

/-- A day inside another value. -/
def shown (d : Day) : String :=
  "datetime.date(" ++ Text.join ", " [toString d.year, toString d.month, toString d.day] ++ ")"

end Day

namespace Moment

/-- The offset of a zone as hours and minutes. -/
def offsetText (m : Int) : String :=
  (if m < 0 then "-" else "+") ++ padded 2 (m.natAbs / 60) ++ ":" ++ padded 2 (m.natAbs % 60)

/-- Day, time and, where given, fraction and offset. -/
def text (t : Moment) : String :=
  t.day.text ++ " " ++ Text.join ":" [padded 2 t.hour, padded 2 t.minute, padded 2 t.second] ++
    (if t.microsecond = 0 then "" else "." ++ padded 6 t.microsecond) ++
    match t.offset with
    | some m => offsetText m
    | none => ""

/-- The parts of the offset of a zone: whole days, which are negative for a negative offset, and
seconds. -/
def zoneShown (m : Int) : String :=
  if m = 0 then "datetime.timezone.utc"
  else
    let days := Int.fdiv (m * 60) 86400
    let seconds := Int.fmod (m * 60) 86400
    let parts :=
      (if days = 0 then [] else ["days=" ++ toString days]) ++
        (if seconds = 0 then [] else ["seconds=" ++ toString seconds])
    "datetime.timezone(datetime.timedelta(" ++ Text.join ", " parts ++ "))"

/-- A moment inside another value; seconds are left out when they and the fraction are zero. -/
def shown (t : Moment) : String :=
  let clock :=
    if t.microsecond = 0 then if t.second = 0 then [] else [t.second] else [t.second, t.microsecond]
  let parts := [t.day.year, t.day.month, t.day.day, t.hour, t.minute] ++ clock
  let zone :=
    match t.offset with
    | some m => ["tzinfo=" ++ zoneShown m]
    | none => []
  "datetime.datetime(" ++ Text.join ", " (parts.map toString ++ zone) ++ ")"

end Moment

/-- A text between brackets. -/
def Brackets.around (b : Brackets) (text : String) : String :=
  match b with
  | .square => "[" ++ text ++ "]"
  | .curly => "\x7b" ++ text ++ "\x7d"
  | .round => "(" ++ text ++ ")"

namespace Value

/-- The brackets of a value; what is no list, map or set has round ones. -/
def brackets : Value → Brackets
  | list _ => .square
  | map _ => .curly
  | set _ => .curly
  | knot _ v => brackets v
  | loop _ b => b
  | _ => .round

mutual

/-- A value inside the collections with the given numbers. A collection inside itself is shown as
three points between its brackets. -/
def shownIn (around : List Nat) : Value → String
  | null => "None"
  | bool b => if b then "True" else "False"
  | int n => toString n
  | float x => x.text
  | str s => Text.quoted s
  | bytes bs => Text.quotedBytes bs
  | list xs => Brackets.square.around (Text.join ", " (shownItems around xs))
  | tuple xs =>
    Brackets.round.around
      (Text.join ", " (shownItems around xs) ++ if xs.length = 1 then "," else "")
  | set xs =>
    if xs.isEmpty then "set()" else Brackets.curly.around (Text.join ", " (shownItems around xs))
  | map es => Brackets.curly.around (Text.join ", " (shownEntries around es))
  | day d => d.shown
  | moment t => t.shown
  | knot n v =>
    if around.contains n then v.brackets.around "..." else shownIn (n :: around) v
  | loop _ b => b.around "..."

/-- The items of a list. -/
def shownItems (around : List Nat) : List Value → List String
  | [] => []
  | v :: vs => shownIn around v :: shownItems around vs

/-- The entries of a map, each a key, a colon and a value. -/
def shownEntries (around : List Nat) : List (Value × Value) → List String
  | [] => []
  | (k, v) :: es => (shownIn around k ++ ": " ++ shownIn around v) :: shownEntries around es

end

/-- A value as it appears inside another one. -/
def shown (v : Value) : String := shownIn [] v

/-- A value on its own. -/
def text : Value → String
  | str s => s
  | day d => d.text
  | moment t => t.text
  | v => v.shown

mutual

/-- Whether a value can be written: no number in it has too many digits for a numeral. -/
def isWritable : Value → Bool
  | int n => Numeral.fits n
  | list xs => areWritable xs
  | tuple xs => areWritable xs
  | set xs => areWritable xs
  | map es => entriesAreWritable es
  | knot _ v => isWritable v
  | _ => true

/-- Whether all items of a list can be written. -/
def areWritable : List Value → Bool
  | [] => true
  | v :: vs => isWritable v && areWritable vs

/-- Whether all keys and values of a map can be written. -/
def entriesAreWritable : List (Value × Value) → Bool
  | [] => true
  | (k, v) :: es => isWritable k && isWritable v && entriesAreWritable es

end

/-- The text of a value, unless it holds a number with too many digits. -/
def text? (v : Value) : Except Misfit String :=
  if v.isWritable then .ok v.text else .error .wrongContent

end Value

end Provision
