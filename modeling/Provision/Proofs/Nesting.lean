import Mathlib
import Provision.Script.Buffer

/-!
# Nested buffers

A part of a script can be written in place or in a buffer of its own, which is taken over later.

* `Step.allLines_indent`: lines that were moved are the lines of a deeper level.
* `Step.verbatimTexts_lines`: the verbatim lines are the same at every level.
* `Step.Inside`, `Step.exists_allLines_of_inside`: what stands anywhere inside a script is written
  there in one piece.
* `Buffer.Agrees`: the same lines, of which the same are verbatim, and the same level.
* **`Buffer.runAll_agrees_extend`**: where steps are performed makes no difference, however deep.
-/

namespace Provision

/-! ## Lines that are moved -/

namespace Line

theorem margin_add {n m : Int} (hn : 0 ≤ n) (hm : 0 ≤ m) :
    margin (n + m) = margin n ++ margin m := by
  have hreplicate : List.replicate (n + m).toNat unit =
      List.replicate n.toNat unit ++ List.replicate m.toNat unit := by
    rw [Int.toNat_add hn hm, List.replicate_add]
  rw [margin, hreplicate, String.join_append]
  rfl

theorem indent_plain {n m : Int} (hn : 0 ≤ n) (hm : 0 ≤ m) (text : String) :
    (plain m text).indent n = plain (n + m) text := by
  by_cases h : text = ""
  · rw [h, plain_empty, plain_empty]
    exact plain_empty n
  · have hne : margin m ++ text ≠ "" := by
      intro hempty
      exact h (String.append_eq_empty_iff.mp hempty).2
    simp [indent, plain, h, margin_add hn hm, String.append_assoc]

@[simp] theorem indent_blank (level : Int) : (⟨"", false⟩ : Line).indent level = ⟨"", false⟩ :=
  plain_empty level

theorem indent_indent {n m : Int} (hn : 0 ≤ n) (hm : 0 ≤ m) (l : Line) :
    (l.indent m).indent n = l.indent (n + m) := by
  by_cases h : l.verbatim = true
  · rw [indent_of_verbatim h, indent_of_verbatim h, indent_of_verbatim h]
  · have hplain : ∀ k, l.indent k = plain k l.text := fun k => by rw [indent, if_neg h]
    rw [hplain, hplain, indent_plain hn hm]

@[simp] theorem verbatim_indent (level : Int) (l : Line) :
    (l.indent level).verbatim = l.verbatim := by
  by_cases h : l.verbatim = true
  · rw [indent_of_verbatim h]
  · rw [indent, if_neg h, plain, Bool.eq_false_iff.mpr h]

theorem filter_map_indent (level : Int) (ls : List Line) :
    (ls.map (indent level)).filter Line.verbatim = ls.filter Line.verbatim := by
  induction ls with
  | nil => rfl
  | cons l ls ih =>
    rw [List.map_cons, List.filter_cons, List.filter_cons, verbatim_indent, ih]
    split
    · rename_i h
      rw [indent_of_verbatim h]
    · rfl

end Line

namespace Step

mutual

/-- Whether a step nowhere goes back to the left; what is written elsewhere may go anywhere. -/
def staysRight : Step → Bool
  | indented levels steps => decide (0 ≤ levels) && allStayRight steps
  | _ => true

/-- Whether no step goes back to the left. -/
def allStayRight : List Step → Bool
  | [] => true
  | s :: ss => staysRight s && allStayRight ss

end

mutual

/-- The texts that a step writes verbatim, whatever the level. -/
def verbatimTexts : Step → List String
  | raw text => Text.splitAtChar '\n' text
  | hereString _ content => Text.splitAtChar '\n' (dropLineFeeds content) ++ ["'@"]
  | indented _ steps => allVerbatimTexts steps
  | extend _ steps => allVerbatimTexts steps
  | _ => []

/-- The texts that steps write verbatim. -/
def allVerbatimTexts : List Step → List String
  | [] => []
  | s :: ss => verbatimTexts s ++ allVerbatimTexts ss

end

theorem rawLines_indent (level : Int) (text : String) :
    (rawLines text).map (Line.indent level) = rawLines text := by
  have hraw : ∀ l ∈ rawLines text, l.indent level = id l := by
    intro l hl
    obtain ⟨s, -, rfl⟩ := List.mem_map.mp hl
    exact Line.indent_of_verbatim rfl level
  rw [List.map_congr_left hraw, List.map_id]

mutual

/-- **A step that was written at one level and moved by another** was written at both together. -/
theorem lines_indent {n m : Int} (hn : 0 ≤ n) (hm : 0 ≤ m) :
    ∀ s : Step, s.staysRight = true → (lines m s).map (Line.indent n) = lines (n + m) s
  | line text, _ => by simp [lines, Line.indent_plain hn hm]
  | blank, _ => by simp [lines]
  | raw text, _ => by rw [lines, lines, rawLines_indent]
  | block text, _ => by
    rw [lines, lines, List.map_map]
    exact List.map_congr_left fun t _ => Line.indent_plain hn hm t
  | comment text, _ => by simp [lines, Line.indent_plain hn hm]
  | banner title, _ => by simp [lines, Line.indent_plain hn hm]
  | hereString name content, _ => by
    simp only [lines, List.map_append, List.map_cons, rawLines_indent, Line.indent_plain hn hm]
  | indented levels steps, h => by
    rw [staysRight, Bool.and_eq_true, decide_eq_true_iff] at h
    rw [lines, lines, allLines_indent hn (Int.add_nonneg hm h.1) steps h.2, Int.add_assoc]
  | extend start steps, _ => by
    -- What comes from elsewhere is lines already: moved twice, it is moved by both levels.
    rw [lines, lines, List.map_map]
    exact List.map_congr_left fun l _ => Line.indent_indent hn hm l

theorem allLines_indent {n m : Int} (hn : 0 ≤ n) (hm : 0 ≤ m) :
    ∀ steps : List Step, allStayRight steps = true →
      (allLines m steps).map (Line.indent n) = allLines (n + m) steps
  | [], _ => rfl
  | s :: ss, h => by
    rw [allStayRight, Bool.and_eq_true] at h
    rw [allLines, allLines, List.map_append, lines_indent hn hm s h.1, allLines_indent hn hm ss h.2]

end

theorem filter_rawLines (text : String) :
    ((rawLines text).filter Line.verbatim).map Line.text = Text.splitAtChar '\n' text := by
  rw [rawLines, List.filter_eq_self.mpr (by simp), List.map_map]
  exact List.map_id _

mutual

/-- The verbatim lines of a step have no blanks in front at any level. -/
theorem verbatimTexts_lines (level : Int) :
    ∀ s : Step, ((lines level s).filter Line.verbatim).map Line.text = verbatimTexts s
  | line text => by simp [lines, verbatimTexts, Line.plain]
  | blank => by simp [lines, verbatimTexts]
  | raw text => by rw [lines, verbatimTexts, filter_rawLines]
  | block text => by
    rw [lines, List.filter_eq_nil_iff.mpr (by simp [Line.plain])]
    rfl
  | comment text => by simp [lines, verbatimTexts, Line.plain]
  | banner title => by simp [lines, verbatimTexts, Line.plain]
  | hereString name content => by
    have hmark : Text.splitAtChar '\n' "'@" = ["'@"] := by decide
    rw [lines, verbatimTexts, List.cons_append, List.filter_cons_of_neg (by simp [Line.plain]),
      List.filter_append, List.map_append, filter_rawLines, filter_rawLines, hmark]
  | indented levels steps => by rw [lines, verbatimTexts, allVerbatimTexts_allLines]
  | extend start steps => by
    rw [lines, verbatimTexts, Line.filter_map_indent, allVerbatimTexts_allLines]

theorem allVerbatimTexts_allLines (level : Int) :
    ∀ steps : List Step,
      ((allLines level steps).filter Line.verbatim).map Line.text = allVerbatimTexts steps
  | [] => rfl
  | s :: ss => by
    rw [allLines, allVerbatimTexts, List.filter_append, List.map_append, verbatimTexts_lines,
      allVerbatimTexts_allLines]

end

/-! ## What stands inside a script -/

/-- Some steps stand in one piece inside others, at any depth to the right of them. -/
inductive Inside (inner : List Step) : List Step → Prop where
  | here (before after : List Step) : Inside inner (before ++ inner ++ after)
  | indented (before after : List Step) {levels : Int} {steps : List Step} (hlevels : 0 ≤ levels)
      (h : Inside inner steps) : Inside inner (before ++ .indented levels steps :: after)
  | extend (before after : List Step) {start : Int} {steps : List Step} (hstart : 0 ≤ start)
      (h : Inside inner steps) : Inside inner (before ++ .extend start steps :: after)

theorem Inside.of_eq {inner outer before after : List Step}
    (h : outer = before ++ inner ++ after) : Inside inner outer := h ▸ .here before after

theorem Inside.indented_one {inner steps : List Step} (h : Inside inner steps)
    (before after : List Step) : Inside inner (before ++ .indented 1 steps :: after) :=
  .indented before after (by decide) h

/-- **What stands inside is written in one piece**, as it is at a deeper level. -/
theorem exists_allLines_of_inside {inner outer : List Step} (h : Inside inner outer)
    (hinner : allStayRight inner = true) {level : Int} (hlevel : 0 ≤ level) :
    ∃ deeper, level ≤ deeper ∧ ∃ before after,
      allLines level outer = before ++ allLines deeper inner ++ after := by
  -- The level only grows on the way in, so that `allLines_indent` applies where a part is moved.
  induction h generalizing level with
  | here before after =>
    refine ⟨level, le_rfl, allLines level before, allLines level after, ?_⟩
    rw [allLines_append, allLines_append]
  | indented before after hlevels h ih =>
    rename_i levels steps
    obtain ⟨deeper, hdeeper, pre, post, heq⟩ := ih (Int.add_nonneg hlevel hlevels)
    refine ⟨deeper, by omega, allLines level before ++ pre, post ++ allLines level after, ?_⟩
    rw [allLines_append, allLines, lines, heq]
    simp only [List.append_assoc]
  | extend before after hstart h ih =>
    rename_i start steps
    obtain ⟨deeper, hdeeper, pre, post, heq⟩ := ih hstart
    have hmoved := allLines_indent hlevel (le_trans hstart hdeeper) inner hinner
    refine ⟨level + deeper, by omega, allLines level before ++ pre.map (Line.indent level),
      post.map (Line.indent level) ++ allLines level after, ?_⟩
    rw [allLines_append, allLines, lines, heq, List.map_append, List.map_append, hmoved]
    simp only [List.append_assoc]

end Step

/-! ## Buffers in buffers -/

namespace Buffer

/-- The same lines, of which the same are verbatim, and the same level. -/
structure Agrees (b c : Buffer) : Prop where
  level_eq : b.level = c.level
  texts_eq : b.texts = c.texts
  marks_iff : ∀ i, i ∈ b.marks ↔ i ∈ c.marks

theorem map_text_lines (b : Buffer) : b.lines.map Line.text = b.texts := by
  rw [lines, List.map_map]
  exact List.zipIdx_map_fst 0 b.texts

theorem mem_marks_iff {b : Buffer} {i : Nat} :
    i ∈ b.marks ↔ ∃ text, b.lines[i]? = some ⟨text, true⟩ := by
  have hget : b.lines[i]? = b.texts[i]?.map fun text => ⟨text, b.marks.contains i⟩ := by
    rw [lines, List.getElem?_map, List.getElem?_zipIdx, Option.map_map, Nat.zero_add]
    rfl
  rw [hget]
  constructor
  · intro hi
    have hlt : i < b.texts.length := b.marks_lt i hi
    refine ⟨b.texts[i], ?_⟩
    rw [List.getElem?_eq_getElem hlt, Option.map_some, List.contains_iff_mem.mpr hi]
  · rintro ⟨text, htext⟩
    obtain ⟨_, -, heq⟩ := Option.map_eq_some_iff.mp htext
    exact List.contains_iff_mem.mp (congrArg Line.verbatim heq)

theorem agrees_of_lines {b c : Buffer} (hlevel : b.level = c.level) (hlines : b.lines = c.lines) :
    b.Agrees c where
  level_eq := hlevel
  texts_eq := by rw [← map_text_lines, ← map_text_lines, hlines]
  marks_iff i := by rw [mem_marks_iff, mem_marks_iff, hlines]

/-- Performs steps in a buffer of their own, which is taken over by a buffer around it, and so on
outwards; the levels say how much deeper each buffer is taken over. -/
def nest (b : Buffer) (steps : List Step) : List Int → Buffer
  | [] => b.runAll steps
  | k :: ks => ((b.shift k).extend ((empty 0).nest steps ks)).shift (-k)

/-- A buffer inside others holds what is written at all their levels together. -/
theorem nest_adds {b : Buffer} (hb : 0 ≤ b.level) {steps : List Step}
    (hsteps : Step.allStayRight steps = true) {ks : List Int} (hks : ∀ k ∈ ks, 0 ≤ k) :
    (b.nest steps ks).level = b.level ∧
      (b.nest steps ks).lines = b.lines ++ Step.allLines (b.level + ks.sum) steps := by
  -- The buffers are generalised: every inner one is fresh, and starts at the left margin.
  induction ks generalizing b with
  | nil =>
    rw [nest, level_runAll, lines_runAll, List.sum_nil, Int.add_zero]
    exact ⟨rfl, rfl⟩
  | cons k ks ih =>
    obtain ⟨hk, hks⟩ := List.forall_mem_cons.mp hks
    obtain ⟨-, hlines⟩ := ih (b := empty 0) le_rfl hks
    have hmoved := Step.allLines_indent (Int.add_nonneg hb hk) (List.sum_nonneg hks) steps hsteps
    have hzero : (empty 0).level + ks.sum = ks.sum := Int.zero_add _
    rw [nest, level_shift, level_extend, level_shift, lines_shift, lines_extend, lines_shift,
      level_shift, hlines, hzero, lines_empty, List.nil_append, hmoved, List.sum_cons,
      Int.add_assoc, Int.add_assoc]
    exact ⟨by omega, rfl⟩

/-- **Where steps are performed makes no difference**: in place, or in a buffer of their own that is
taken over afterwards, and so for buffers inside buffers to any depth. The level stays, the lines
before stay, and verbatim lines come as they are. -/
theorem runAll_agrees_extend {b : Buffer} (hb : 0 ≤ b.level) {steps : List Step}
    (hsteps : Step.allStayRight steps = true) :
    (b.runAll steps).Agrees (b.extend ((empty 0).runAll steps)) ∧
      (∀ ks : List Int, (∀ k ∈ ks, 0 ≤ k) →
        (((b.shift ks.sum).runAll steps).shift (-ks.sum)).Agrees (b.nest steps ks)) ∧
      (b.runAll steps).level = b.level ∧
      ∃ added, (b.runAll steps).lines = b.lines ++ added ∧
        (added.filter Line.verbatim).map Line.text = Step.allVerbatimTexts steps := by
  have hmoved := Step.allLines_indent hb le_rfl steps hsteps
  have hzero : (empty 0).level = 0 := rfl
  refine ⟨agrees_of_lines ?_ ?_, fun ks hks => ?_, level_runAll b steps,
    Step.allLines b.level steps, lines_runAll b steps, Step.allVerbatimTexts_allLines _ steps⟩
  · rw [level_runAll, level_extend]
  · rw [lines_runAll, lines_extend, lines_runAll, lines_empty, List.nil_append, hzero, hmoved,
      Int.add_zero]
  · obtain ⟨hlevel, hlines⟩ := nest_adds hb hsteps hks
    refine agrees_of_lines ?_ ?_
    · rw [level_shift, level_runAll, level_shift, hlevel]
      omega
    · rw [lines_shift, lines_runAll, lines_shift, level_shift, hlines]

/-- A buffer at the second level that holds a line already. -/
def started : Buffer := (empty 2).write "if ($true) \x7b"

/-- A here-string between steps to the right of it, and a part that was written further left. -/
def hereSteps : List Step := [
  .line "try \x7b",
  .indented 1 [.hereString "$text" "a\n  b\n\n", .extend (-1) [.block "  c\n\n    d", .blank]],
  .banner "e"]

theorem runAll_agrees_extend_hereSteps :
    (0 ≤ started.level ∧ Step.allStayRight hereSteps = true) ∧
      (started.runAll hereSteps).Agrees (started.extend ((empty 0).runAll hereSteps)) ∧
      (∀ ks : List Int, (∀ k ∈ ks, 0 ≤ k) →
        (((started.shift ks.sum).runAll hereSteps).shift (-ks.sum)).Agrees
          (started.nest hereSteps ks)) ∧
      (started.runAll hereSteps).level = started.level ∧
      ∃ added, (started.runAll hereSteps).lines = started.lines ++ added ∧
        (added.filter Line.verbatim).map Line.text = Step.allVerbatimTexts hereSteps := by
  have hlevel : 0 ≤ started.level := by decide
  have hright : Step.allStayRight hereSteps = true := by decide
  exact ⟨⟨hlevel, hright⟩, runAll_agrees_extend hlevel hright⟩

end Buffer

end Provision
