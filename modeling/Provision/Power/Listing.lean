import Provision.Power.Snapshot
import Provision.Text.Digit

/-!
# Listings of power settings

* `Listing.plan?`: the plan that the output of `powercfg /getactivescheme` names.
* `ListingLine`: what a line of the output of `powercfg /qh` says.
* `Listing.readings`: the readings in that output.
-/

namespace Provision

namespace Listing

/-- The first result of `f` on what remains of a text after some of its characters. -/
def search {α : Type} (f : List Char → Option α) : List Char → Option α
  | [] => f []
  | c :: cs =>
    match f (c :: cs) with
    | some a => some a
    | none => search f cs

/-- What follows `label` and blanks at the start of a text. -/
def afterLabel? (label : String) (cs : List Char) : Option (List Char) :=
  if Text.startsWith label.toList cs then
    some ((cs.drop label.toList.length).dropWhile Text.isBlank)
  else none

/-- Whether a character is a hexadecimal digit. -/
def isHex (c : Char) : Bool := (Text.hexValue? c).isSome

/-- The first `n` characters, if they are hexadecimal digits, and the rest. -/
def hexRun? (n : Nat) (cs : List Char) : Option (List Char × List Char) :=
  let run := cs.take n
  if run.length = n ∧ run.all isHex then some (run, cs.drop n) else none

/-- Runs of hexadecimal digits of the given lengths with single hyphens between them. -/
def hexRuns? : List Nat → List Char → Option (List Char × List Char)
  | [], cs => some ([], cs)
  | [n], cs => hexRun? n cs
  | n :: ns, cs => do
    let (run, rest) ← hexRun? n cs
    match rest with
    | '-' :: rest =>
      let (runs, rest) ← hexRuns? ns rest
      return (run ++ '-' :: runs, rest)
    | _ => none

/-- The lengths of the runs of digits in a GUID. -/
def guidShape : List Nat := [8, 4, 4, 4, 12]

/-- The GUID at the start of a text, in lower case, and the rest. -/
def guid? (cs : List Char) : Option (String × List Char) :=
  (hexRuns? guidShape cs).map fun (g, rest) => (Text.lower (String.ofList g), rest)

/-- The GUID at the start of a text after a label. -/
def labelledGuid? (label : String) (cs : List Char) : Option (String × List Char) :=
  (afterLabel? label cs).bind guid?

/-- The text up to the last closing parenthesis. -/
def upToLastClosing? (cs : List Char) : Option (List Char) :=
  match Text.dropEndWhile (· != ')') cs with
  | [] => none
  | kept => some kept.dropLast

/-- The name in parentheses at the start of a text; it does not go past the end of the line. -/
def bracketed? (cs : List Char) : Option (List Char) :=
  match cs.dropWhile Text.isBlank with
  | '(' :: rest => upToLastClosing? (rest.takeWhile (· != '\n'))
  | _ => none

/-- The plan that a text names first; one without a name goes by its GUID. -/
def plan? (output : String) : Option Plan := do
  let (guid, rest) ← search (labelledGuid? "Power Scheme GUID:") output.toList
  let name := Text.trim (String.ofList ((bracketed? rest).getD []))
  return ⟨guid, if name = "" then guid else name⟩

/-- The index after a label, in hexadecimal notation. -/
def labelledIndex? (label : String) (cs : List Char) : Option Nat :=
  match afterLabel? label cs with
  | some ('0' :: 'x' :: rest) =>
    let digits := rest.takeWhile isHex
    if digits.isEmpty then none
    else some (Numeral.ofDigits 16 (digits.filterMap Text.hexValue?))
  | _ => none

end Listing

/-- What a line of a listing says. -/
inductive ListingLine where
  | setting (guid : String)
  | ac (index : Nat)
  | dc (index : Nat)
  | other
deriving DecidableEq, Repr

/-- What a line says: the announcement of a setting comes first, then an index on mains, then one on
battery. -/
def ListingLine.ofChars (cs : List Char) : ListingLine :=
  match Listing.search (Listing.labelledGuid? "Power Setting GUID:") cs with
  | some (guid, _) => .setting guid
  | none =>
    match Listing.search (Listing.labelledIndex? "Current AC Power Setting Index:") cs with
    | some n => .ac n
    | none =>
      match Listing.search (Listing.labelledIndex? "Current DC Power Setting Index:") cs with
      | some n => .dc n
      | none => .other

namespace Listing

/-- The indexes of a setting, from the lines up to the next announcement; a later line counts. -/
def indexes (r : Reading) : List ListingLine → Reading
  | [] => r
  | .setting _ :: _ => r
  | .ac n :: ls => indexes ⟨.int n, r.dc⟩ ls
  | .dc n :: ls => indexes ⟨r.ac, .int n⟩ ls
  | .other :: ls => indexes r ls

/-- The readings in lines; indexes before the first announcement belong to no setting. -/
def readingsOfLines (rs : Readings) : List ListingLine → Readings
  | [] => rs
  | .setting guid :: ls => readingsOfLines (rs.insert guid (indexes ⟨.null, .null⟩ ls)) ls
  | _ :: ls => readingsOfLines rs ls

/-- The lines of a listing. -/
def linesOf (output : String) : List ListingLine :=
  (Text.lines output).map fun l => .ofChars l.toList

/-- The readings in a listing. -/
def readings (output : String) : Readings := readingsOfLines [] (linesOf output)

end Listing

end Provision
