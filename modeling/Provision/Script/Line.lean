/-!
# Lines of a script

* `Line`: a line, which may be verbatim.
* `Line.indent`: a line moved to the right; verbatim and empty lines stay where they are.
-/

namespace Provision

/-- A line of a script; a verbatim line is never moved. -/
structure Line where
  text : String
  verbatim : Bool
deriving DecidableEq, Repr

namespace Line

/-- The blanks of one level. -/
def unit : String := "    "

/-- The blanks in front of a line at a level; below level zero there are none. -/
def margin (level : Int) : String := String.join (List.replicate level.toNat unit)

@[simp] theorem margin_zero : margin 0 = "" := rfl

/-- A plain line at a level; an empty one gets no blanks. -/
def plain (level : Int) (text : String) : Line :=
  ⟨if text = "" then "" else margin level ++ text, false⟩

@[simp] theorem plain_empty (level : Int) : plain level "" = ⟨"", false⟩ := by simp [plain]

/-- A line moved to the right by a level. -/
def indent (level : Int) (l : Line) : Line := if l.verbatim then l else plain level l.text

theorem indent_of_verbatim {l : Line} (h : l.verbatim = true) (level : Int) :
    l.indent level = l := by simp [indent, h]

@[simp] theorem indent_plain_zero (level : Int) (text : String) :
    (plain 0 text).indent level = plain level text := by
  by_cases h : text = "" <;> simp [plain, indent, h]

end Line

end Provision
