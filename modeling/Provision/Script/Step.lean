import Provision.Script.Line
import Provision.Text.Margin

/-!
# Steps of writing a script

* `Step`: one thing to write, from a single line to a nested sequence of steps.
* `Step.lines`: the lines that a step adds at a level.
* `Step.render`: the text of a sequence of steps.

Verbatim lines, among them the body and the end of a here-string, stay at the left margin at every
level.
-/

namespace Provision

/-- One thing to write. -/
inductive Step where
  /-- A line at the current level. -/
  | line (text : String)
  /-- An empty line. -/
  | blank
  /-- A text whose lines are written verbatim. -/
  | raw (text : String)
  /-- A text whose lines lose their common margin and go to the current level. -/
  | block (text : String)
  /-- A comment. -/
  | comment (text : String)
  /-- A title between rules, with empty lines around it. -/
  | banner (title : String)
  /-- The assignment of a literal here-string to a variable. -/
  | hereString (name content : String)
  /-- Steps at a deeper level. -/
  | indented (levels : Int) (steps : List Step)
  /-- Steps written elsewhere, beginning at level `start`, and then moved to the current level. -/
  | extend (start : Int) (steps : List Step)

namespace Step

/-- The rule above and below a title. -/
def rule : String := "# " ++ String.ofList (List.replicate 76 '=')

/-- The verbatim lines of a text. -/
def rawLines (text : String) : List Line :=
  (Text.splitAtChar '\n' text).map fun s => ⟨s, true⟩

/-- A text without the line feeds at its end. -/
def dropLineFeeds (text : String) : String :=
  String.ofList (Text.dropEndWhile (· = '\n') text.toList)

mutual

/-- The lines that a step adds at a level. -/
def lines (level : Int) : Step → List Line
  | line text => [Line.plain level text]
  | blank => [⟨"", false⟩]
  | raw text => rawLines text
  | block text => (Text.blockLines text).map (Line.plain level)
  | comment text => [Line.plain level ("# " ++ text)]
  | banner title =>
    [⟨"", false⟩, Line.plain level rule, Line.plain level ("# " ++ title), Line.plain level rule,
      ⟨"", false⟩]
  | hereString name content =>
    Line.plain level (name ++ " = @'") :: rawLines (dropLineFeeds content) ++ rawLines "'@"
  | indented levels steps => allLines (level + levels) steps
  | extend start steps => (allLines start steps).map (Line.indent level)

/-- The lines that steps add at a level. -/
def allLines (level : Int) : List Step → List Line
  | [] => []
  | s :: ss => lines level s ++ allLines level ss

end

theorem allLines_eq_flatMap (level : Int) (steps : List Step) :
    allLines level steps = steps.flatMap (lines level) := by
  induction steps with
  | nil => rw [allLines, List.flatMap_nil]
  | cons s ss ih => rw [allLines, List.flatMap_cons, ih]

theorem allLines_append (level : Int) (steps more : List Step) :
    allLines level (steps ++ more) = allLines level steps ++ allLines level more := by
  simp only [allLines_eq_flatMap, List.flatMap_append]

/-- The text of a script, every line ended. -/
def textOf (ls : List Line) : String := Text.join "\n" (ls.map Line.text) ++ "\n"

/-- The text that steps write at the left margin. -/
def render (steps : List Step) : String := textOf (allLines 0 steps)

end Step

end Provision
