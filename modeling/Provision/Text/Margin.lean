import Provision.Text.Blank

/-!
# Common margins

* `dedentLines`: lines without the longest run of spaces and tabs that all of them begin with; lines
  of spaces and tabs alone become empty and do not count.
* `blockLines`: the lines of a block of text.
-/

namespace Provision.Text

/-- A space or a tab. -/
def isIndent (c : Char) : Bool := c = ' ' || c = '\t'

/-- What two lists begin with in common. -/
def commonStart : List Char → List Char → List Char
  | a :: as, b :: bs => if a = b then a :: commonStart as bs else []
  | _, _ => []

/-- A line of spaces and tabs alone becomes empty. -/
def clearIndentLine (line : List Char) : List Char := if line.all isIndent then [] else line

/-- The longest run of spaces and tabs that all lines with other characters begin with. -/
def margin (rows : List (List Char)) : List Char :=
  match (rows.filter fun l => !l.all isIndent).map (·.takeWhile isIndent) with
  | [] => []
  | m :: ms => ms.foldl commonStart m

/-- The lines without their common margin. -/
def dedentLines (rows : List (List Char)) : List (List Char) :=
  (rows.map clearIndentLine).map (·.drop (margin rows).length)

/-- The lines of a block: the margin goes, then the empty lines at both ends, then the blanks at the
end of every line; an empty block has one empty line. -/
def blockLines (s : String) : List String :=
  let rows := dedentLines (splitChars '\n' s.toList)
  let kept := (rows.dropWhile List.isEmpty).reverse.dropWhile List.isEmpty |>.reverse
  let kept := if kept.isEmpty then [[]] else kept
  kept.map fun l => String.ofList (dropEndWhile isBlank l)

end Provision.Text
