import Mathlib
import Provision.Proofs.Excerpt

/-!
# The removal script inside the script

The removal script is written into a here-string of the script, with the names of what goes as
literals in its arrays.

* `RemovalPlan.isEmpty_addAll`: when there is something to remove.
* `Excerpt.arrays?`: the arrays of literals in a text, each read behind the one before.
* `IsFixedLine`: lines of script text that break nowhere and begin with no quote.
* **`Removal.isMark_of_mem_script`**: no line of the script ends the here-string.
* **`Removal.hereString?_sectionSteps`**: the script is read back from the section.
* **`Removal.arrays?_script`**: its arrays are read back as the lists of the plan.
* **`Removal.section_reads_back`**: all this for any items.
-/

namespace Provision

open Excerpt

/-! ## When there is something to remove -/

/-- An item that makes something to remove: the browser, the file synchronisation, or anything with
a name. -/
def RemovalItem.isRemovable (item : RemovalItem) : Bool :=
  item.id == RemovalPlan.edgeItem || item.id == RemovalPlan.oneDriveItem || item.name != ""

namespace RemovalPlan

theorem addName_ne_nil {names : List String} {name : String} (h : name ≠ "" ∨ names ≠ []) :
    addName names name ≠ [] := by
  unfold addName
  split
  · rename_i hkept
    rcases h with h | h
    · rintro rfl
      simp [h] at hkept
    · exact h
  · exact List.append_ne_nil_of_right_ne_nil names (List.cons_ne_nil name [])

theorem foldl_addName_ne_nil {names : List String} (h : names ≠ []) (more : List String) :
    more.foldl addName names ≠ [] := by
  induction more generalizing names with
  | nil => exact h
  | cons name more ih => exact ih (addName_ne_nil (.inr h))

theorem hasGeneric_addNamed (p : RemovalPlan) {item : RemovalItem} (h : item.name ≠ "") :
    (p.addNamed item).hasGeneric = true := by
  have hne : ∀ names : List String, addName names item.name ≠ [] :=
    fun names => addName_ne_nil (.inl h)
  unfold addNamed hasGeneric
  cases item.kind with
  | package => simp [foldl_addName_ne_nil (hne _)]
  | capability => simp [hne]
  | optionalFeature => simp [hne]

theorem isEmpty_add (p : RemovalPlan) (item : RemovalItem) :
    (p.add item).1.isEmpty = (p.isEmpty && !item.isRemovable) := by
  unfold add RemovalItem.isRemovable
  split
  · rename_i hedge
    simp [isEmpty, hedge]
  rename_i hedge
  split
  · rename_i honeDrive
    simp [isEmpty, honeDrive]
  rename_i honeDrive
  split
  · rename_i hname
    simp [hedge, honeDrive, hname]
  · rename_i hname
    simp [isEmpty, hasGeneric_addNamed p hname, hname]

/-- **There is nothing to remove** exactly if no item makes anything to remove. -/
theorem isEmpty_addAll (p : RemovalPlan) (items : List RemovalItem) :
    (p.addAll items).1.isEmpty = (p.isEmpty && !items.any RemovalItem.isRemovable) := by
  induction items generalizing p with
  | nil => simp [addAll]
  | cons item items ih =>
    rw [addAll, List.any_cons]
    simp only [ih, isEmpty_add, Bool.and_assoc, Bool.not_or]

end RemovalPlan

/-! ## Here-strings among steps -/

namespace Step

mutual

/-- The here-strings that a step writes, with their variables. -/
def hereStrings : Step → List (String × String)
  | hereString name content => [(name, content)]
  | indented _ steps => allHereStrings steps
  | extend _ steps => allHereStrings steps
  | _ => []

/-- The here-strings that steps write, with their variables. -/
def allHereStrings : List Step → List (String × String)
  | [] => []
  | s :: ss => hereStrings s ++ allHereStrings ss

end

theorem allHereStrings_map_line (texts : List String) : allHereStrings (texts.map line) = [] := by
  induction texts with
  | nil => rfl
  | cons text texts ih => exact ih

end Step

/-! ## Arrays of literals -/

theorem Removal.allLines_arraySteps (level : Int) (name : String) (values : List String) :
    Step.allLines level (arraySteps name values) =
      Line.plain level ("$" ++ name ++ " = @(") ::
        (((values.map Literal.quote).map (Line.plain (level + 1)) ++ [Line.plain level ")"]) ++
          [⟨"", false⟩]) := by
  have hvalues : Step.allLines (level + 1) (values.map fun v => .line (Literal.quote v)) =
      (values.map Literal.quote).map (Line.plain (level + 1)) := by
    rw [← Step.allLines_map_line, List.map_map]
    rfl
  simp only [arraySteps, Step.allLines, Step.lines, hvalues]
  simp

namespace Excerpt

/-- Reads the array of literals that a variable gets, and what follows. -/
def array? (name : String) (cs : List Char) : Option (List String × List Char) :=
  (afterLine? ("$" ++ name ++ " = @(").toList cs).bind (items? literal? false)

/-- Reads arrays of literals one after the other, each behind the one before. -/
def arrays? : List String → List Char → Option (List (List String))
  | [], _ => some []
  | name :: names, cs => (array? name cs).bind fun r => (arrays? names r.2).map (r.1 :: ·)

theorem head?_array (name : String) : ("$" ++ name ++ " = @(").toList.head? = some '$' := by
  simp

theorem afterLine?_newline {line : List Char} (h : line ≠ []) (cs : List Char) :
    afterLine? line ('\n' :: cs) = afterLine? line cs := by
  have hrow : afterLine? line ([] ++ '\n' :: cs) = _ := afterLine?_row List.not_mem_nil cs
  rwa [List.nil_append, List.dropWhile_nil, if_neg (Ne.symm h)] at hrow

/-- The literals of an array, each on a line of its own, are read back up to the bracket. -/
theorem items?_literals (level close : Int) (values : List String) (rest : List Char) :
    items? literal? false (Step.charsOf ((values.map Literal.quote).map (Line.plain level) ++
        [Line.plain close ")"]) ++ rest) = some (values, '\n' :: rest) := by
  induction values with
  | nil =>
    have hclose : items? literal? false
        ([] ++ ((Line.plain close ")").text.toList ++ '\n' :: rest)) = some ([], '\n' :: rest) :=
      items?_close (List.forall_mem_nil _) close _
    simpa [Step.charsOf_cons, Step.charsOf] using hclose
  | cons v vs ih =>
    have hhead : (Literal.quote v).toList.head? = some '\'' := by simp [Literal.quote]
    have hquote : isGap '\'' = false ∧ '\'' ≠ ')' := by decide
    have hgaps : ∀ c ∈ ([] : List Char), isGap c = true := List.forall_mem_nil _
    rw [List.map_cons, List.map_cons, List.cons_append, Step.charsOf_cons, List.append_assoc,
      List.cons_append]
    generalize hcs : Step.charsOf ((vs.map Literal.quote).map (Line.plain level) ++
      [Line.plain close ")"]) ++ rest = cs at ih ⊢
    have hitem : literal? ((Literal.quote v).toList ++ '\n' :: cs) = some (v, '\n' :: cs) :=
      literal?_quote v (by simp)
    have hseparator : separator? ('\n' :: cs) = some (false, cs) := rfl
    have hread := items?_of_item hgaps hhead hquote hitem hseparator (Nat.le_succ _) level false
    rw [List.nil_append] at hread
    rw [hread, ih, Option.map_some]

theorem afterLine?_newlines {line : List Char} (h : line ≠ []) (n : Nat) (cs : List Char) :
    afterLine? line (List.replicate n '\n' ++ cs) = afterLine? line cs := by
  induction n with
  | zero => rfl
  | succ n ih =>
    rw [List.replicate_succ, List.cons_append, afterLine?_newline h, ih]

theorem array?_arraySteps {name : String} (hname : '\n' ∉ name.toList) (level : Int)
    (values : List String) (n : Nat) (rest : List Char) :
    array? name (List.replicate n '\n' ++
        (Step.written level (Removal.arraySteps name values) ++ rest)) =
      some (values, List.replicate 2 '\n' ++ rest) := by
  have hline : '\n' ∉ ("$" ++ name ++ " = @(").toList := by
    simp [hname]
  have hne : ("$" ++ name ++ " = @(").toList ≠ [] := by simp
  rw [array?, afterLine?_newlines hne, Step.written, Removal.allLines_arraySteps,
    afterLine?_self (head?_array name) hline, Option.bind_some, Step.charsOf_append,
    List.append_assoc, items?_literals]
  rfl

/-- **Arrays are read back one after the other**, whatever their names say. -/
theorem arrays?_arraySteps {arrays : List (String × List String)}
    (hnames : ∀ x ∈ arrays, '\n' ∉ x.1.toList) (level : Int) (n : Nat) (rest : List Char) :
    arrays? (arrays.map Prod.fst) (List.replicate n '\n' ++
        (Step.written level (arrays.flatMap fun x => Removal.arraySteps x.1 x.2) ++ rest)) =
      some (arrays.map Prod.snd) := by
  induction arrays generalizing n with
  | nil => rfl
  | cons x xs ih =>
    obtain ⟨hx, hxs⟩ := List.forall_mem_cons.mp hnames
    have hwritten : Step.written level ((x :: xs).flatMap fun x => Removal.arraySteps x.1 x.2) =
        Step.written level (Removal.arraySteps x.1 x.2) ++
          Step.written level (xs.flatMap fun x => Removal.arraySteps x.1 x.2) := by
      rw [List.flatMap_cons, Step.written, Step.allLines_append, Step.charsOf_append]
      rfl
    rw [List.map_cons, arrays?, hwritten, List.append_assoc, array?_arraySteps hx, Option.bind_some,
      ih hxs, Option.map_some]
    rfl

end Excerpt

/-! ## Lines of fixed text -/

/-- No character of a text ends a line. -/
def IsOneLine (text : String) : Prop := ∀ c ∈ text.toList, Text.isLineEnd c = false

/-- A text on one line that does not begin with a quote. -/
structure IsFixedLine (text : String) : Prop where
  oneLine : IsOneLine text
  head_ne : text.toList.head? ≠ some '\''

theorem IsOneLine.not_mem {text : String} (h : IsOneLine text) : '\n' ∉ text.toList := by
  intro hmem
  have hend : Text.isLineEnd '\n' = true := by decide
  exact Bool.false_ne_true ((h _ hmem).symm.trans hend)

theorem isOneLine_append {text more : String} :
    IsOneLine (text ++ more) ↔ IsOneLine text ∧ IsOneLine more := by
  simp only [IsOneLine, String.toList_append, List.forall_mem_append]

theorem isOneLine_ofList {cs : List Char} (h : cs.all (fun c => !Text.isLineEnd c) = true) :
    IsOneLine (String.ofList cs) := by
  intro c hc
  rw [String.toList_ofList] at hc
  simpa using List.all_eq_true.mp h c hc

theorem isOneLine_quote {s : String} (h : IsOneLine s) : IsOneLine (Literal.quote s) := by
  have hquote : Text.isLineEnd '\'' = false := by decide
  have hescape : ∀ c ∈ Literal.escapeChars s.toList, Text.isLineEnd c = false := by
    intro c hc
    obtain ⟨b, hb, hc⟩ := List.mem_flatMap.mp hc
    have hcases : c = b ∨ c = '\'' := by
      split at hc <;> simp_all
    rcases hcases with rfl | rfl
    · exact h _ hb
    · exact hquote
  intro c hc
  simp only [Literal.quote, Literal.escape, String.toList_append, String.toList_ofList,
    List.mem_append] at hc
  rcases hc with (hc | hc) | hc
  · rw [List.mem_singleton.mp hc]
    exact hquote
  · exact hescape c hc
  · rw [List.mem_singleton.mp hc]
    exact hquote

theorem isFixedLine_ofList {c : Char} {cs : List Char}
    (h : (c :: cs).all (fun c => !Text.isLineEnd c) = true) (hc : (c == '\'') = false) :
    IsFixedLine (String.ofList (c :: cs)) where
  oneLine := isOneLine_ofList h
  head_ne := by
    rw [String.toList_ofList]
    simpa using hc

theorem isFixedLine_append {c : Char} {cs : List Char} {more : String}
    (h : (c :: cs).all (fun c => !Text.isLineEnd c) = true) (hc : (c == '\'') = false)
    (hmore : IsOneLine more) : IsFixedLine (String.ofList (c :: cs) ++ more) where
  oneLine := isOneLine_append.mpr ⟨isOneLine_ofList h, hmore⟩
  head_ne := by
    rw [String.toList_append, String.toList_ofList]
    simpa using hc

theorem isFixedLine_empty : IsFixedLine "" where
  oneLine := by simp [IsOneLine]
  head_ne := by simp

namespace Fragment

theorem forall_isOneLine_inner {f : Fragment} :
    (∀ t ∈ inner f, IsOneLine t) ↔ ∀ t ∈ f, IsOneLine t := by
  have hunit : IsOneLine Line.unit := isOneLine_ofList (by rfl)
  simp only [inner, List.forall_mem_map]
  refine forall₂_congr fun t _ => ?_
  split
  · rename_i h
    rw [h]
  · rw [isOneLine_append]
    exact ⟨And.right, fun ht => ⟨hunit, ht⟩⟩

theorem forall_isFixedLine_inner {f : Fragment} :
    (∀ t ∈ inner f, IsFixedLine t) ↔ ∀ t ∈ f, IsOneLine t := by
  rw [← forall_isOneLine_inner]
  refine forall₂_congr fun t ht => ⟨IsFixedLine.oneLine, fun hline => ⟨hline, ?_⟩⟩
  obtain ⟨s, -, rfl⟩ := List.mem_map.mp ht
  split
  · simp
  · rw [String.toList_append]
    simp [Line.unit]

end Fragment

namespace Removal

/-! ## The removal script -/

/-- The fixed texts of the script. -/
def fixedTexts : List Fragment :=
  [headText, loggingText, genericText, overlayText, edgeText, oneDriveText, tailText]

theorem isFixedLine_of_mem : ∀ f ∈ fixedTexts, ∀ t ∈ f, IsFixedLine t := by
  simp only [fixedTexts, headText, loggingText, genericText, overlayText, edgeText, oneDriveText,
    tailText, logPath, taskName, Logon.taskFolder, Fragment.scope, Fragment.branches,
    Fragment.moreBranches, Fragment.list, List.cons_append, List.nil_append, List.forall_mem_append,
    List.forall_mem_cons, Fragment.forall_isFixedLine_inner, Fragment.forall_isOneLine_inner,
    List.not_mem_nil, false_imp_iff, implies_true, and_true, String.append_assoc]
  and_intros
  -- Each line is checked as the list of its characters.
  repeat' with_reducible first
    | exact isFixedLine_empty
    | refine isFixedLine_ofList ?_ ?_
    | refine isFixedLine_append ?_ ?_ ?_
    | refine isOneLine_append.mpr ⟨?_, ?_⟩
    | refine isOneLine_quote ?_
    | refine isOneLine_ofList ?_
  all_goals rfl

theorem not_opens_of_mem : ∀ t ∈ headText ++ loggingText, opens "$p" t = false := by
  simp only [headText, loggingText, Fragment.scope, Fragment.branches, Fragment.moreBranches,
    Fragment.list, List.cons_append, List.nil_append, List.forall_mem_append, List.forall_mem_cons,
    Fragment.forall_not_opens_inner, List.not_mem_nil, false_imp_iff, implies_true, and_true]
  and_intros
  all_goals with_reducible first
    | exact not_opens_empty
    | refine not_opens_ofList ?_
    | refine not_opens_append ?_ _
  all_goals rfl

/-- The lines that run the script and register its task; one of them is the registration. -/
theorem map_opens_runText : runText.map (opens "Register-ScheduledTask") =
    List.replicate 22 false ++ true :: List.replicate 7 false := by
  simp only [runText, Fragment.scope, Fragment.branches, Fragment.moreBranches, List.cons_append,
    List.nil_append, List.map_append, List.map_cons, List.map_nil, Fragment.map_opens_inner,
    List.replicate_succ, List.replicate_zero, String.append_assoc, List.cons.injEq, and_true]
  and_intros
  all_goals with_reducible first
    | exact not_opens_empty
    | refine not_opens_ofList ?_
    | refine not_opens_append ?_ _
    | refine opens_append ?_ _
  all_goals rfl

/-! ### No line ends the here-string -/

/-- A line that is free on its own. -/
def IsFreeLine (l : Line) : Prop := isFree true (l.text.toList ++ ['\n']) = true

theorem isFreeLine_plain {text : String} (h : IsFixedLine text) :
    IsFreeLine (Line.plain 0 text) := by
  have htext : (Line.plain 0 text).text = text := by
    by_cases hempty : text = "" <;> simp [Line.plain, hempty]
  have hmark : isMark (text.toList ++ ['\n']) = false := by
    cases hcs : text.toList with
    | nil => rfl
    | cons c cs =>
      refine isMark_cons_of_ne ?_ _
      intro hc
      exact h.head_ne (by rw [hcs, hc]; rfl)
  rw [IsFreeLine, htext]
  exact isFree_of_isMark h.oneLine hmark

/-- The blanks in front of a literal keep its quote off the beginning of the line. -/
theorem isFreeLine_quote (v : String) : IsFreeLine (Line.plain 1 (Literal.quote v)) := by
  have htext : (Line.plain 1 (Literal.quote v)).text.toList ++ ['\n'] =
      ' ' :: ' ' :: ' ' :: ' ' :: '\'' :: (Literal.escapeChars v.toList ++ ['\'', '\n']) := by
    simp [Line.plain, Line.margin, Line.unit, Literal.quote, Literal.escape]
  have hblank : Text.isLineEnd ' ' = false := by decide
  have hquote : Text.isLineEnd '\'' = false := by decide
  rw [IsFreeLine, htext]
  simp only [isFree, hblank, hquote, isFree_escapeChars, isMark_cons_of_ne (c := ' ') (by decide),
    Bool.and_false, Bool.false_and, Bool.not_false, Bool.and_self]

theorem isFreeLine_of_mem_steps {f : Fragment} (hf : f ∈ fixedTexts) :
    ∀ l ∈ Step.allLines 0 f.steps, IsFreeLine l := by
  rw [Fragment.steps, Step.allLines_map_line, List.forall_mem_map]
  exact fun t ht => isFreeLine_plain (isFixedLine_of_mem f hf t ht)

theorem isFreeLine_of_mem_arraySteps {name : String} (hname : IsOneLine name)
    (values : List String) : ∀ l ∈ Step.allLines 0 (arraySteps name values), IsFreeLine l := by
  have hopen : IsFixedLine ("$" ++ name ++ " = @(") := by
    refine ⟨?_, by simp⟩
    rw [isOneLine_append, isOneLine_append]
    exact ⟨⟨isOneLine_ofList (by rfl), hname⟩, isOneLine_ofList (by rfl)⟩
  have hclose : IsFixedLine ")" := isFixedLine_ofList (by rfl) (by rfl)
  have hblank : IsFreeLine ⟨"", false⟩ := isFreeLine_plain isFixedLine_empty
  rw [allLines_arraySteps, List.forall_mem_cons, List.forall_mem_append, List.forall_mem_append,
    List.forall_mem_singleton, List.forall_mem_singleton, List.forall_mem_map, List.forall_mem_map]
  exact ⟨isFreeLine_plain hopen, ⟨fun v _ => isFreeLine_quote v, isFreeLine_plain hclose⟩, hblank⟩

/-- The variables of the arrays, each with the names it gets. -/
def arraysOf (plan : RemovalPlan) : List (String × List String) := [
  ("packages", plan.packages), ("capabilities", plan.capabilities),
  ("optionalFeatures", plan.features), ("specialApps", plan.special)]

theorem isOneLine_of_mem_arraysOf {plan : RemovalPlan} :
    ∀ x ∈ arraysOf plan, IsOneLine x.1 := by
  simp only [arraysOf, List.forall_mem_cons, List.not_mem_nil, false_imp_iff, implies_true,
    and_true]
  and_intros <;> exact isOneLine_ofList (by rfl)

theorem genericSteps_eq (plan : RemovalPlan) :
    genericSteps plan = ((arraysOf plan).flatMap fun x => arraySteps x.1 x.2) ++
      (genericText.steps ++ if plan.includesOverlay then overlayText.steps else []) := by
  simp [genericSteps, arraysOf]

theorem forall_mem_optional {P : Line → Prop} {steps : List Step}
    (h : ∀ l ∈ Step.allLines 0 steps, P l) (b : Bool) :
    ∀ l ∈ Step.allLines 0 (if b then steps else []), P l := by
  cases b with
  | false => exact List.forall_mem_nil _
  | true => exact h

/-- **Every line of the removal script is free.** -/
theorem isFreeLine_of_mem_scriptSteps (plan : RemovalPlan) :
    ∀ l ∈ Step.allLines 0 (scriptSteps plan), IsFreeLine l := by
  have hfixed : ∀ f ∈ fixedTexts, ∀ l ∈ Step.allLines 0 f.steps, IsFreeLine l :=
    fun f hf => isFreeLine_of_mem_steps hf
  simp only [fixedTexts, List.forall_mem_cons] at hfixed
  obtain ⟨hhead, hlogging, hgeneric, hoverlay, hedge, honeDrive, htail, -⟩ := hfixed
  have harrays : ∀ l ∈ Step.allLines 0 ((arraysOf plan).flatMap fun x => arraySteps x.1 x.2),
      IsFreeLine l := by
    intro l hl
    rw [Step.allLines_eq_flatMap, List.flatMap_assoc] at hl
    obtain ⟨x, hx, hl⟩ := List.mem_flatMap.mp hl
    rw [← Step.allLines_eq_flatMap] at hl
    exact isFreeLine_of_mem_arraySteps (isOneLine_of_mem_arraysOf x hx) x.2 l hl
  have hlists : ∀ l ∈ Step.allLines 0 (genericSteps plan), IsFreeLine l := by
    rw [genericSteps_eq, Step.allLines_append, Step.allLines_append, List.forall_mem_append,
      List.forall_mem_append]
    exact ⟨harrays, hgeneric, forall_mem_optional hoverlay _⟩
  simp only [scriptSteps, Step.allLines_append, List.forall_mem_append]
  exact ⟨⟨⟨⟨⟨hhead, hlogging⟩, forall_mem_optional hlists _⟩, forall_mem_optional hedge _⟩,
    forall_mem_optional honeDrive _⟩, htail⟩

theorem getLast?_ofList {cs : List Char} {c : Char} (h : cs.getLast? = some c) :
    ∃ pre, (String.ofList cs).toList = pre ++ [c] := by
  rw [String.toList_ofList]
  exact List.getLast?_eq_some_iff.mp h

theorem exists_tailText_steps :
    ∃ steps, tailText.steps = steps ++ [.line "Write-Log \"App removal completed\""] := by
  rw [tailText, Fragment.steps, List.map_append]
  exact ⟨_, rfl⟩

theorem toList_script (plan : RemovalPlan) :
    (script plan).toList = Step.charsOf (Step.allLines 0 (scriptSteps plan)) := by
  obtain ⟨steps, htail⟩ := exists_tailText_steps
  refine Step.toList_textOf ?_
  rw [scriptSteps, htail, ← List.append_assoc, Step.allLines_append]
  exact List.append_ne_nil_of_right_ne_nil _ (List.cons_ne_nil _ _)

/-- The script ends in a single line feed. -/
theorem exists_toList_script (plan : RemovalPlan) :
    ∃ body, (script plan).toList = body ++ ['"', '\n'] := by
  obtain ⟨steps, htail⟩ := exists_tailText_steps
  obtain ⟨pre, hpre⟩ : ∃ pre, "Write-Log \"App removal completed\"".toList = pre ++ ['"'] :=
    getLast?_ofList (by rfl)
  have hlast : Step.charsOf (Step.allLines 0 [.line "Write-Log \"App removal completed\""]) =
      pre ++ ['"', '\n'] := by
    have htext : (Line.plain 0 "Write-Log \"App removal completed\"").text =
        "Write-Log \"App removal completed\"" := by simp [Line.plain]
    rw [Step.allLines, Step.lines, Step.allLines, List.append_nil, Step.charsOf_cons, htext, hpre]
    simp [Step.charsOf]
  rw [toList_script, scriptSteps, htail, ← List.append_assoc, Step.allLines_append,
    Step.charsOf_append, hlast, ← List.append_assoc]
  exact ⟨_, rfl⟩

/-- **No line of the script ends a here-string**, at whatever character lines are cut. -/
theorem isMark_of_mem_script (plan : RemovalPlan) {d : Char} (hd : Text.isLineEnd d = true) :
    ∀ row ∈ Text.splitChars d (script plan).toList, isMark row = false := by
  rw [toList_script]
  exact isMark_of_isFree hd (isFree_charsOf (isFreeLine_of_mem_scriptSteps plan))

/-! ### The here-string -/

/-- The here-string holds the script without the line feed at its end. -/
theorem dropLineFeeds_script (plan : RemovalPlan) :
    (Step.dropLineFeeds (script plan)).toList ++ ['\n'] = (script plan).toList := by
  obtain ⟨body, hbody⟩ := exists_toList_script plan
  have hcons : body ++ ['"', '\n'] = (body ++ ['"']) ++ ['\n'] := by simp
  rw [Step.dropLineFeeds, String.toList_ofList, hbody, hcons]
  show List.rdropWhile _ _ ++ _ = _
  rw [List.rdropWhile_concat_pos _ _ _ (by decide), List.rdropWhile_concat_neg _ _ _ (by decide)]

theorem hasNoMark_script (plan : RemovalPlan) :
    HasNoMark (Step.dropLineFeeds (script plan)).toList := by
  intro row hrow
  refine isMark_of_mem_script plan (d := '\n') (by decide) row ?_
  rw [← dropLineFeeds_script, Text.splitChars_append_cons]
  exact List.mem_append_left _ hrow

theorem allStayRight_sectionSteps (plan : RemovalPlan) :
    Step.allStayRight (sectionSteps plan) = true := by
  rw [sectionSteps, Fragment.steps]
  simp only [List.cons_append, List.nil_append, Step.allStayRight, Step.staysRight,
    Step.allStayRight_map_line, Bool.and_self]

/-- **The script is read back from the here-string** of the section, at every level. -/
theorem hereString?_sectionSteps (plan : RemovalPlan) (level : Int) (rest : List Char) :
    hereString? "$appRemovalContent" (Step.written level (sectionSteps plan) ++ rest) =
      some (Step.dropLineFeeds (script plan)).toList := by
  have hname : IsVariable "$appRemovalContent" := ⟨rfl, by decide⟩
  have htitle : '\n' ∉ "WINDOWS APPS REMOVAL".toList := by decide
  rw [Step.written, sectionSteps]
  simp only [List.cons_append, List.nil_append, Step.allLines]
  rw [hereString?, afterLine?_banner (head?_assignment hname) htitle, ← hereString?]
  exact (hereString?_iff hname level (script plan) _ rest).mpr (hasNoMark_script plan)

/-! ### The arrays -/

theorem afterLine?_texts {line : List Char} {texts : List String}
    (h : ∀ t ∈ texts, '\n' ∉ t.toList ∧ t.toList.dropWhile (· = ' ') ≠ line) (level : Int)
    (rest : List Char) :
    afterLine? line (Step.charsOf (texts.map (Line.plain level)) ++ rest) =
      afterLine? line rest := by
  induction texts with
  | nil => rfl
  | cons t ts ih =>
    obtain ⟨⟨hbreak, hne⟩, hts⟩ := List.forall_mem_cons.mp h
    rw [List.map_cons, afterLine?_plain hbreak, if_neg hne, ih hts]

theorem array?_before (rest : List Char) :
    array? "packages" (Step.charsOf ((headText ++ loggingText).map (Line.plain 0)) ++ rest) =
      array? "packages" rest := by
  have hopens : Text.startsWith "$p".toList ("$" ++ "packages" ++ " = @(").toList = true := by
    decide
  have hskip : ∀ t ∈ headText ++ loggingText,
      '\n' ∉ t.toList ∧ t.toList.dropWhile (· = ' ') ≠ ("$" ++ "packages" ++ " = @(").toList := by
    intro t ht
    have hline : IsFixedLine t := by
      rcases List.mem_append.mp ht with ht | ht
      · exact isFixedLine_of_mem headText (by simp [fixedTexts]) t ht
      · exact isFixedLine_of_mem loggingText (by simp [fixedTexts]) t ht
    refine ⟨hline.oneLine.not_mem, fun heq => ?_⟩
    have hnot := not_opens_of_mem t ht
    rw [opens, heq, hopens] at hnot
    exact Bool.false_ne_true hnot.symm
  rw [array?, array?, afterLine?_texts hskip]

/-- **The arrays of the script are read back** as the lists of the plan. -/
theorem arrays?_script {plan : RemovalPlan} (h : plan.hasGeneric = true) :
    arrays? ((arraysOf plan).map Prod.fst) (script plan).toList =
      some ((arraysOf plan).map Prod.snd) := by
  obtain ⟨rest, hscript⟩ : ∃ rest, (script plan).toList =
      Step.charsOf ((headText ++ loggingText).map (Line.plain 0)) ++
        (Step.written 0 ((arraysOf plan).flatMap fun x => arraySteps x.1 x.2) ++ rest) := by
    rw [toList_script, scriptSteps, if_pos h, genericSteps_eq, List.map_append,
      ← Step.allLines_map_line, ← Step.allLines_map_line, Step.charsOf_append]
    simp only [Step.allLines_append, Step.charsOf_append, List.append_assoc, Step.written]
    exact ⟨_, rfl⟩
  have hnames : ∀ x ∈ arraysOf plan, '\n' ∉ x.1.toList := fun x hx =>
    (isOneLine_of_mem_arraysOf x hx).not_mem
  have hread := arrays?_arraySteps hnames 0 0 rest
  rw [hscript, ← hread]
  rw [show (arraysOf plan).map Prod.fst =
    "packages" :: ["capabilities", "optionalFeatures", "specialApps"] from rfl, arrays?, arrays?,
    array?_before]
  rfl

/-! ### The section -/

/-- Whether a line of the script registers a task. -/
def registersTask (l : Line) : Bool := !l.verbatim && opens "Register-ScheduledTask" l.text

theorem registersTask_plain (level : Int) (text : String) :
    registersTask (Line.plain level text) = opens "Register-ScheduledTask" text := by
  rw [registersTask, opens_plain]
  rfl

theorem countP_registersTask_rawLines (text : String) :
    (Step.rawLines text).countP registersTask = 0 := by
  rw [List.countP_eq_zero]
  intro l hl
  obtain ⟨row, -, rfl⟩ := List.mem_map.mp hl
  simp [registersTask]

/-- **The section registers one task**; what the here-string holds is not run there. -/
theorem countP_registersTask_sectionSteps (plan : RemovalPlan) (level : Int) :
    (Step.allLines level (sectionSteps plan)).countP registersTask = 1 := by
  have hrun : (Step.allLines level runText.steps).countP registersTask = 1 := by
    have hline : registersTask ∘ Line.plain level = id ∘ opens "Register-ScheduledTask" :=
      funext fun t => registersTask_plain level t
    rw [Fragment.steps, Step.allLines_map_line, List.countP_map, hline, ← List.countP_map,
      map_opens_runText]
    decide
  have hblank : registersTask ⟨"", false⟩ = false := by
    rw [← Line.plain_empty level, registersTask_plain]
    exact not_opens_empty
  have hrule : registersTask (Line.plain level Step.rule) = false := by
    rw [registersTask_plain, Step.rule]
    exact not_opens_append (by rfl) _
  have htitle : registersTask (Line.plain level ("# " ++ "WINDOWS APPS REMOVAL")) = false := by
    rw [registersTask_plain]
    exact not_opens_append (by rfl) _
  have hopen : registersTask (Line.plain level ("$appRemovalContent" ++ " = @'")) = false := by
    rw [registersTask_plain]
    exact not_opens_append (by rfl) _
  simp only [sectionSteps, Step.allLines, Step.lines, List.cons_append, List.nil_append,
    List.countP_cons, List.countP_append, hblank, hrule, htitle, hopen,
    countP_registersTask_rawLines, hrun, Bool.false_eq_true, if_false]

theorem allHereStrings_sectionSteps (plan : RemovalPlan) :
    Step.allHereStrings (sectionSteps plan) = [("$appRemovalContent", script plan)] := by
  rw [sectionSteps, Fragment.steps]
  simp only [List.cons_append, List.nil_append, Step.allHereStrings, Step.hereStrings,
    Step.allHereStrings_map_line]

theorem section?_eq (items : List RemovalItem) :
    (section? items).1 =
      if items.any RemovalItem.isRemovable then
        some (sectionSteps (RemovalPlan.ofItems items).1)
      else none := by
  have hempty := RemovalPlan.isEmpty_addAll .empty items
  rw [show RemovalPlan.empty.isEmpty = true from rfl, Bool.true_and] at hempty
  unfold section?
  simp only [RemovalPlan.ofItems, hempty]
  cases items.any RemovalItem.isRemovable <;> rfl

end Removal

namespace Assembler

variable {a : Assembler} {config : Configuration} {snapshot : Snapshot} {script : String}

theorem removalSection_eq (config : Configuration) :
    (removalSection config).1 = (Removal.section? config.removals).1 := by
  unfold removalSection
  split
  · rename_i hempty
    rw [List.isEmpty_iff.mp hempty]
    rfl
  · rfl

theorem standIn_sectionSteps (h : (a.assemble config snapshot).outcome = .ok script)
    (hitems : config.removals.any RemovalItem.isRemovable = true) :
    Step.StandIn (Removal.sectionSteps (RemovalPlan.ofItems config.removals).1) script := by
  obtain ⟨system, user, hsystem, -, -, -⟩ := assemble_of_ok h
  obtain ⟨power?, -, hbefore⟩ := before_of_ok hsystem
  rw [removalSection_eq, Removal.section?_eq, if_pos hitems, Option.getD_some] at hbefore
  have hsteps : system.steps =
      Workspace.scriptsFolder ++ Removal.sectionSteps (RemovalPlan.ofItems config.removals).1 ++
        (power?.getD [] ++ Block.allSteps system.blocks ++ system.after) := by
    simp [PhaseBody.steps, hbefore]
  exact standIn_of_body h (.inl hsystem) (Removal.allStayRight_sectionSteps _) (.of_eq hsteps)

end Assembler

/-! ## Any items -/

/-- **The removal script survives its here-string.** For any items, the section is written exactly
if one of them makes something to remove, with one here-string and one registration; no line of the
script ends the here-string, which is read back from the section at every level and stands so in an
assembled script; and the arrays of the script are read back as the lists of the plan. -/
theorem Removal.section_reads_back (items : List RemovalItem) :
    let plan := (RemovalPlan.ofItems items).1
    (section? items).1 =
        (if ∃ item ∈ items, item.id = RemovalPlan.edgeItem ∨ item.id = RemovalPlan.oneDriveItem ∨
            item.name ≠ "" then some (sectionSteps plan) else none) ∧
      Step.allHereStrings (sectionSteps plan) = [("$appRemovalContent", script plan)] ∧
      (∀ level, (Step.allLines level (sectionSteps plan)).countP registersTask = 1) ∧
      (∀ d, Text.isLineEnd d = true →
        ∀ row ∈ Text.splitChars d (script plan).toList, isMark row = false) ∧
      (∃ body, (script plan).toList = body ++ ['\n'] ∧ ∀ level rest,
        hereString? "$appRemovalContent" (Step.written level (sectionSteps plan) ++ rest) =
          some body) ∧
      (∀ (a : Assembler) (config : Configuration) (snapshot : Snapshot) (text : String),
        config.removals = items → (section? items).1.isSome = true →
          (a.assemble config snapshot).outcome = .ok text →
            Step.StandIn (sectionSteps plan) text) ∧
      (plan.hasGeneric = true →
        arrays? ["packages", "capabilities", "optionalFeatures", "specialApps"]
            (script plan).toList =
          some [plan.packages, plan.capabilities, plan.features, plan.special]) := by
  intro plan
  have hany : items.any RemovalItem.isRemovable = true ↔ ∃ item ∈ items,
      item.id = RemovalPlan.edgeItem ∨ item.id = RemovalPlan.oneDriveItem ∨ item.name ≠ "" := by
    simp [RemovalItem.isRemovable, or_assoc]
  refine ⟨?_, allHereStrings_sectionSteps plan, countP_registersTask_sectionSteps plan,
    fun d hd => isMark_of_mem_script plan hd, ⟨_, (dropLineFeeds_script plan).symm,
    hereString?_sectionSteps plan⟩, ?_, arrays?_script⟩
  · rw [section?_eq]
    exact if_congr hany rfl rfl
  · rintro a config snapshot text rfl hsome h
    refine Assembler.standIn_sectionSteps h ?_
    by_contra hnone
    rw [section?_eq, if_neg hnone] at hsome
    cases hsome

end Provision
