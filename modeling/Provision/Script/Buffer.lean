import Provision.Script.Step

/-!
# Script buffers

* `Buffer`: the lines written so far, the positions of the verbatim ones, and the level of the next.
* `Buffer.write`, `Buffer.writeVerbatim`, `Buffer.extend`: what adds lines: one at the level, one at
  the left margin for good, and those of another buffer, moved to the level.
* `Buffer.run`, `Buffer.runAll`: performs steps one after the other.
* **`Buffer.lines_runAll`**: what steps add depends on the level alone, not on the lines before.
-/

namespace Provision

/-- The lines written so far, which of them are verbatim, and the level of the next one. -/
structure Buffer where
  level : Int
  texts : List String
  /-- The positions of the verbatim lines. -/
  marks : List Nat
  marks_lt : ∀ i ∈ marks, i < texts.length

namespace Buffer

/-- A buffer without lines. -/
def empty (level : Int) : Buffer := ⟨level, [], [], nofun⟩

/-- The lines with what the marks say about them. -/
def lines (b : Buffer) : List Line := b.texts.zipIdx.map fun e => ⟨e.1, b.marks.contains e.2⟩

/-- The same lines at another level. -/
def shift (b : Buffer) (levels : Int) : Buffer := { b with level := b.level + levels }

/-- Adds a line at the level; an empty one gets no blanks. -/
def write (b : Buffer) (text : String) : Buffer where
  level := b.level
  texts := b.texts ++ [if text = "" then "" else Line.margin b.level ++ text]
  marks := b.marks
  marks_lt i hi := by
    rw [List.length_append]
    exact Nat.lt_add_right 1 (b.marks_lt i hi)

/-- Adds a line as it is, and marks its position. -/
def writeVerbatim (b : Buffer) (text : String) : Buffer where
  level := b.level
  texts := b.texts ++ [text]
  marks := b.marks ++ [b.texts.length]
  marks_lt i hi := by
    rw [List.length_append]
    rcases List.mem_append.mp hi with hi | hi
    · exact Nat.lt_add_right 1 (b.marks_lt i hi)
    · rw [List.mem_singleton.mp hi]
      exact Nat.lt_succ_self _

/-- Adds a line of another buffer. -/
def put (b : Buffer) (l : Line) : Buffer :=
  if l.verbatim then b.writeVerbatim l.text else b.write l.text

/-- Adds the lines of another buffer, moved to the level. -/
def extend (b other : Buffer) : Buffer := other.lines.foldl put b

mutual

/-- Performs a step. -/
def run (b : Buffer) : Step → Buffer
  | .line text => b.write text
  | .blank => b.write ""
  | .raw text => (Text.splitAtChar '\n' text).foldl writeVerbatim b
  | .block text => (Text.blockLines text).foldl write b
  | .comment text => b.write ("# " ++ text)
  | .banner title =>
    ((((b.write "").write Step.rule).write ("# " ++ title)).write Step.rule).write ""
  | .hereString name content =>
    ((Text.splitAtChar '\n' (Step.dropLineFeeds content)).foldl writeVerbatim
      (b.write (name ++ " = @'"))).writeVerbatim "'@"
  | .indented levels steps => ((b.shift levels).runAll steps).shift (-levels)
  | .extend start steps => b.extend ((empty start).runAll steps)

/-- Performs steps in order. -/
def runAll (b : Buffer) : List Step → Buffer
  | [] => b
  | s :: ss => (b.run s).runAll ss

end

/-! ## What is added -/

@[simp] theorem lines_empty (level : Int) : (empty level).lines = [] := rfl

@[simp] theorem lines_shift (b : Buffer) (levels : Int) : (b.shift levels).lines = b.lines := rfl

@[simp] theorem level_shift (b : Buffer) (levels : Int) :
    (b.shift levels).level = b.level + levels := rfl

@[simp] theorem level_write (b : Buffer) (text : String) : (b.write text).level = b.level := rfl

@[simp] theorem level_writeVerbatim (b : Buffer) (text : String) :
    (b.writeVerbatim text).level = b.level := rfl

@[simp] theorem lines_write (b : Buffer) (text : String) :
    (b.write text).lines = b.lines ++ [Line.plain b.level text] := by
  -- The new position is behind all marks, so the new line is a plain one.
  have hnew : b.texts.length ∉ b.marks := fun hmem =>
    absurd (b.marks_lt _ hmem) (Nat.lt_irrefl _)
  simp [lines, write, Line.plain, List.zipIdx_append, hnew]

@[simp] theorem lines_writeVerbatim (b : Buffer) (text : String) :
    (b.writeVerbatim text).lines = b.lines ++ [⟨text, true⟩] := by
  -- The new mark is behind all positions, so the lines before stay as they are.
  have hold : ∀ e ∈ b.texts.zipIdx, (b.marks ++ [b.texts.length]).contains e.2 =
      b.marks.contains e.2 := by
    intro e he
    have hlt : e.2 < b.texts.length := List.snd_lt_of_mem_zipIdx he
    simp [Nat.ne_of_lt hlt]
  have hmap := List.map_congr_left fun e he => congrArg (Line.mk e.1) (hold e he)
  simp only [lines, writeVerbatim, List.zipIdx_append, List.map_append, hmap]
  simp

@[simp] theorem level_put (b : Buffer) (l : Line) : (b.put l).level = b.level := by
  unfold put
  split <;> rfl

@[simp] theorem lines_put (b : Buffer) (l : Line) :
    (b.put l).lines = b.lines ++ [l.indent b.level] := by
  unfold put Line.indent
  split
  · rename_i h
    rw [lines_writeVerbatim, ← h]
  · exact lines_write b l.text

/-- Work for a list of lines that adds one line for each and keeps the level. -/
theorem foldl_adds {α : Type} {f : Buffer → α → Buffer} {g : Int → α → Line}
    (hlevel : ∀ b a, (f b a).level = b.level)
    (hlines : ∀ b a, (f b a).lines = b.lines ++ [g b.level a]) (b : Buffer) (as : List α) :
    (as.foldl f b).level = b.level ∧ (as.foldl f b).lines = b.lines ++ as.map (g b.level) := by
  induction as generalizing b with
  | nil => simp
  | cons a as ih =>
    obtain ⟨hl, hls⟩ := ih (f b a)
    rw [List.foldl_cons, hl, hls, hlevel, hlines, List.append_assoc]
    exact ⟨rfl, rfl⟩

theorem foldl_writeVerbatim_adds (b : Buffer) (texts : List String) :
    (texts.foldl writeVerbatim b).level = b.level ∧
      (texts.foldl writeVerbatim b).lines = b.lines ++ texts.map (⟨·, true⟩) :=
  foldl_adds (g := fun _ text => ⟨text, true⟩) level_writeVerbatim lines_writeVerbatim b texts

@[simp] theorem level_extend (b other : Buffer) : (b.extend other).level = b.level :=
  (foldl_adds level_put lines_put b other.lines).1

@[simp] theorem lines_extend (b other : Buffer) :
    (b.extend other).lines = b.lines ++ other.lines.map (Line.indent b.level) :=
  (foldl_adds level_put lines_put b other.lines).2

mutual

/-- A step keeps the level, and adds the lines that it writes there. -/
theorem run_adds : ∀ (s : Step) (b : Buffer),
    (b.run s).level = b.level ∧ (b.run s).lines = b.lines ++ s.lines b.level
  | .line text, b => by simp [run, Step.lines]
  | .blank, b => by simp [run, Step.lines]
  | .raw text, b => by
    rw [run, Step.lines, Step.rawLines]
    exact foldl_writeVerbatim_adds b (Text.splitAtChar '\n' text)
  | .block text, b => by
    rw [run, Step.lines]
    exact foldl_adds level_write lines_write b (Text.blockLines text)
  | .comment text, b => by simp [run, Step.lines]
  | .banner title, b => by simp [run, Step.lines]
  | .hereString name content, b => by
    have h := foldl_writeVerbatim_adds (b.write (name ++ " = @'"))
      (Text.splitAtChar '\n' (Step.dropLineFeeds content))
    have hmark : Step.rawLines "'@" = [⟨"'@", true⟩] := by decide
    rw [run, Step.lines, level_writeVerbatim, lines_writeVerbatim, h.1, h.2, hmark]
    simp [Step.rawLines]
  | .indented levels steps, b => by
    obtain ⟨hlevel, hlines⟩ := runAll_adds steps (b.shift levels)
    rw [run, Step.lines, level_shift, lines_shift, hlevel, hlines, level_shift]
    exact ⟨Int.add_neg_cancel_right _ _, rfl⟩
  | .extend start steps, b => by
    obtain ⟨-, hlines⟩ := runAll_adds steps (empty start)
    rw [run, Step.lines, level_extend, lines_extend, hlines]
    exact ⟨rfl, rfl⟩

theorem runAll_adds : ∀ (steps : List Step) (b : Buffer),
    (b.runAll steps).level = b.level ∧
      (b.runAll steps).lines = b.lines ++ Step.allLines b.level steps
  | [], b => by simp [runAll, Step.allLines]
  | s :: ss, b => by
    obtain ⟨hlevel, hlines⟩ := run_adds s b
    obtain ⟨hlevel', hlines'⟩ := runAll_adds ss (b.run s)
    rw [runAll, Step.allLines, hlevel', hlines', hlevel, hlines, List.append_assoc]
    exact ⟨rfl, rfl⟩

end

@[simp] theorem level_runAll (b : Buffer) (steps : List Step) :
    (b.runAll steps).level = b.level := (runAll_adds steps b).1

theorem lines_runAll (b : Buffer) (steps : List Step) :
    (b.runAll steps).lines = b.lines ++ Step.allLines b.level steps := (runAll_adds steps b).2

/-- The text of the buffer, every line ended. -/
def text (b : Buffer) : String := Step.textOf b.lines

/-- A script is the text of a fresh buffer in which its steps were performed. -/
theorem text_runAll_empty (steps : List Step) :
    ((empty 0).runAll steps).text = Step.render steps := by
  rw [text, lines_runAll, lines_empty, List.nil_append]
  rfl

end Buffer

end Provision
