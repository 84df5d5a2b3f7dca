import Provision.Text.CaseTable

/-!
# Letter case

* `upper`: the upper case of a text, in which a character may become several.
* `lower`: the lower case of a text, in which a sigma that ends a word takes its final form.
-/

namespace Provision.Text

/-- The other case of `n` by the first run that covers it. -/
def caseByRuns (runs : Array CaseRun) (n : Nat) : Option Nat :=
  (runs.find? fun r => r.first ≤ n && n ≤ r.last && (n - r.first) % r.step == 0).map
    fun r => ((n : Int) + r.shift).toNat

/-- The other case of `c`, which is `c` itself when no table names it. -/
def mapCase (runs : Array CaseRun) (expansions : Array (Nat × List Nat)) (c : Char) : List Char :=
  match caseByRuns runs c.toNat with
  | some n => [Char.ofNat n]
  | none =>
    match expansions.find? fun e => e.1 == c.toNat with
    | some e => e.2.map Char.ofNat
    | none => [c]

/-- The upper case of a character. -/
def upperChar (c : Char) : List Char :=
  if c.toNat < 128 then [c.toUpper] else mapCase upperRuns upperExpansions c

/-- The lower case of a character, whatever stands around it. -/
def lowerChar (c : Char) : List Char :=
  if c.toNat < 128 then [c.toLower] else mapCase lowerRuns lowerExpansions c

/-- Upper case, character by character. -/
def upperChars (cs : List Char) : List Char := cs.flatMap upperChar

theorem upperChars_append (cs ds : List Char) :
    upperChars (cs ++ ds) = upperChars cs ++ upperChars ds := List.flatMap_append

/-- The upper case of a text. -/
def upper (s : String) : String := String.ofList (upperChars s.toList)

/-- Whether the first character that is not ignorable is cased. -/
def meetsCased (cs : List Char) : Bool :=
  match cs.dropWhile ignorableTurns.holds with
  | [] => false
  | c :: _ => casedTurns.holds c

/-- Lower case of the rest of a text; `before` holds the characters already read, reversed. -/
def lowerFrom (before : List Char) : List Char → List Char
  | [] => []
  | c :: cs =>
    let low :=
      if c = 'Σ' then [if meetsCased before && !meetsCased cs then 'ς' else 'σ'] else lowerChar c
    low ++ lowerFrom (c :: before) cs

/-- The lower case of a text. -/
def lower (s : String) : String := String.ofList (lowerFrom [] s.toList)

/-- Whether `start` begins the list `cs`. -/
def startsWith (start cs : List Char) : Bool := start.isPrefixOf cs

theorem startsWith_iff {start cs : List Char} : startsWith start cs = true ↔ start <+: cs :=
  List.isPrefixOf_iff_prefix

/-- Whether `part` occurs in the list `cs`. -/
def occursIn (part : List Char) : List Char → Bool
  | [] => part.isEmpty
  | c :: cs => startsWith part (c :: cs) || occursIn part cs

end Provision.Text
