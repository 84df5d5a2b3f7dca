import Mathlib
import Provision.Proofs.CatalogText
import Provision.Proofs.RemovalScript

/-!
# The table of scheduled tasks

The tasks of all choices of a section are gathered into one table of the system phase.

* `TaskBatch.row?`: a row of the table, read with whether a comma stands behind it.
* `TaskBatch.tables`: what is read from every line that begins a table.
* `Block.not_opensTable`: only the block of tasks begins one.
* **`TaskBatch.table?_tableLines`**: the changes are read back from the table.
* `ChoiceSection.askedTasks`: what the choices of a section ask of tasks.
* **`ChoiceSection.tables_read_back`**: the two drafts of a section hold one table, or none if no
  choice has a task, and it lists the tasks of all choices.
-/

namespace Provision

open Excerpt

namespace TaskBatch

/-! ## Reading rows -/

/-- Reads a row of the table, and whether a comma stands behind it. -/
def row? (cs : List Char) : Option ((TaskChange × Bool) × List Char) := do
  let (path, cs) ← field? "@\x7b TN=" literal? cs
  let (action, cs) ← field? "; Action=" literal? cs
  let (description, cs) ← field? "; Desc=" literal? cs
  let cs ← word? " \x7d" cs
  return ((⟨path, action, description⟩, cs.head? == some ','), cs)

/-- Reads the rows of the table that a text begins with. -/
def table? (cs : List Char) : Option (List (TaskChange × Bool)) :=
  ((afterLine? "$scheduledTasks = @(".toList cs).bind (items? row? false)).map Prod.fst

/-- Rows with whether another follows: all but the last are followed. -/
def separated {α : Type} : List α → List (α × Bool)
  | [] => []
  | a :: as => (a, !as.isEmpty) :: separated as

theorem toList_row (t : TaskChange) (rest : List Char) :
    (row t).toList ++ rest =
      "@\x7b TN=".toList ++ ((Literal.quote t.path).toList ++
        ("; Action=".toList ++ ('\'' :: (t.action.toList ++ '\'' ::
          ("; Desc=".toList ++ ((Literal.quote t.description).toList ++
            (" \x7d".toList ++ rest))))))) := by
  delta row
  simp

/-- A row is read back, whatever its path and its description say. -/
theorem row?_row {t : TaskChange} (haction : '\'' ∉ t.action.toList) (rest : List Char) :
    row? ((row t).toList ++ rest) = some ((t, rest.head? == some ','), rest) := by
  rw [toList_row, row?, field?_append, literal?_quote t.path (by simp)]
  simp only [Option.bind_eq_bind, Option.bind_some]
  rw [field?_append, (literal?_iff t.action (by simp)).mpr ⟨haction, rfl⟩]
  simp only [Option.bind_some]
  rw [field?_append, literal?_quote t.description (by simp)]
  simp only [Option.bind_some]
  rw [word?_append]
  rfl

/-- The rows of the table are read back, behind blanks and up to the bracket. -/
theorem items?_rows (level close : Int) {changes : List TaskChange}
    (hactions : ∀ t ∈ changes, '\'' ∉ t.action.toList) {due : Bool}
    (hdue : due = true → changes ≠ []) {gaps : List Char} (hgaps : ∀ c ∈ gaps, isGap c = true)
    (rest : List Char) :
    items? row? due (gaps ++ (Step.charsOf
        ((PowerSection.withCommas (changes.map row)).map (Line.plain level) ++
          [Line.plain close ")"]) ++ rest)) = some (separated changes, '\n' :: rest) := by
  induction changes generalizing due gaps with
  | nil =>
    obtain rfl : due = false := by simpa using hdue
    rw [List.map_nil, PowerSection.withCommas, List.map_nil, List.nil_append, Step.charsOf_cons,
      List.append_assoc, items?_close hgaps]
    rfl
  | cons t ts ih =>
    obtain ⟨haction, hactions⟩ := List.forall_mem_cons.mp hactions
    have hmore : (!ts.isEmpty) = true → ts ≠ [] := by simp
    have hhead : (row t ++ PowerSection.separatorText (!ts.isEmpty)).toList.head? = some '@' := by
      rw [String.toList_append, toList_row]
      rfl
    have hat : isGap '@' = false ∧ '@' ≠ ')' := by decide
    rw [List.map_cons, PowerSection.withCommas_cons, List.map_cons, List.cons_append,
      Step.charsOf_cons, List.append_assoc, List.cons_append, List.isEmpty_map]
    have hrest := ih hactions hmore (PowerSection.isGap_gapAfter (!ts.isEmpty))
    generalize Step.charsOf ((PowerSection.withCommas (ts.map row)).map (Line.plain level) ++
      [Line.plain close ")"]) ++ rest = cs at hrest ⊢
    -- The row is read up to its separator, which tells whether another row is due.
    have hitem : row? ((row t ++ PowerSection.separatorText (!ts.isEmpty)).toList ++ '\n' :: cs) =
        some ((t, !ts.isEmpty),
          (PowerSection.separatorText (!ts.isEmpty)).toList ++ '\n' :: cs) := by
      rw [String.toList_append, List.append_assoc, row?_row haction]
      cases ts.isEmpty <;> rfl
    have hlength : (PowerSection.gapAfter (!ts.isEmpty) ++ cs).length ≤ cs.length + 1 := by
      cases ts.isEmpty <;> simp [PowerSection.gapAfter]
    rw [items?_of_item hgaps hhead hat hitem (PowerSection.separator?_row _ cs) hlength, hrest]
    rfl

/-! ## Finding tables -/

/-- A line that begins a table of tasks; verbatim lines belong to the texts of here-strings. -/
def opensTable (l : Line) : Bool := !l.verbatim && opens "$scheduledTasks" l.text

/-- What is read from every line that begins a table. -/
def tables : List Line → List (Option (List (TaskChange × Bool)))
  | [] => []
  | l :: ls =>
    if opensTable l then table? (Step.charsOf (l :: ls)) :: tables ls else tables ls

theorem tables_append {ls : List Line} (h : ∀ l ∈ ls, opensTable l = false) (more : List Line) :
    tables (ls ++ more) = tables more := by
  induction ls with
  | nil => rfl
  | cons l ls ih =>
    obtain ⟨hl, hls⟩ := List.forall_mem_cons.mp h
    rw [List.cons_append, tables, hl, if_neg Bool.false_ne_true, ih hls]

theorem tables_eq_nil {ls : List Line} (h : ∀ l ∈ ls, opensTable l = false) : tables ls = [] := by
  rw [← List.append_nil ls, tables_append h, tables]

theorem opensTable_plain (level : Int) (text : String) :
    opensTable (Line.plain level text) = opens "$scheduledTasks" text := by
  rw [opensTable, opens_plain]
  rfl

theorem not_opensTable_of_avoids {l : Line} (h : l.Avoids [tableHead]) : opensTable l = false := by
  have hbegin : tableHead <+: "$scheduledTasks".toList := by decide
  rw [opensTable, Bool.and_eq_false_iff, Bool.not_eq_false']
  refine h.imp_right fun htext => Bool.eq_false_iff.mpr fun hopens => ?_
  exact Bool.false_ne_true ((htext _ List.mem_cons_self).symm.trans (opens_of_opens hbegin hopens))

/-! ### The table -/

/-- The lines of the table from the one that begins it to its bracket. -/
def tableLines (level : Int) (changes : List TaskChange) : List Line :=
  Line.plain level "$scheduledTasks = @(" ::
    ((PowerSection.withCommas (changes.map row)).map (Line.plain (level + 1)) ++
      [Line.plain level ")"])

theorem allLines_steps (level : Int) (changes : List TaskChange) :
    Step.allLines level (steps changes) =
      ⟨"", false⟩ :: (tableLines level changes ++
        (⟨"", false⟩ :: Step.allLines level applyText.steps)) := by
  simp [steps, tableLines, Step.allLines, Step.lines, Step.allLines_map_line]

/-- **The changes are read back from their table**, whatever follows it. -/
theorem table?_tableLines {changes : List TaskChange}
    (hactions : ∀ t ∈ changes, '\'' ∉ t.action.toList) (level : Int) (more : List Line) :
    table? (Step.charsOf (tableLines level changes ++ more)) = some (separated changes) := by
  have hopen : '\n' ∉ "$scheduledTasks = @(".toList := by decide
  have hdue : false = true → changes ≠ [] := fun h => absurd h Bool.false_ne_true
  have hrows := items?_rows (level + 1) level hactions hdue (List.forall_mem_nil _)
    (Step.charsOf more)
  have hfound := afterLine?_self rfl hopen level
    (((PowerSection.withCommas (changes.map row)).map (Line.plain (level + 1)) ++
      [Line.plain level ")"]) ++ more) []
  rw [List.append_nil, List.append_nil] at hfound
  rw [List.nil_append, ← Step.charsOf_append] at hrows
  rw [table?, tableLines, List.cons_append, hfound, Option.bind_some, hrows]
  rfl

theorem tables_steps {changes : List TaskChange}
    (hactions : ∀ t ∈ changes, '\'' ∉ t.action.toList) (level : Int) {more : List Line}
    (hmore : ∀ l ∈ more, opensTable l = false) :
    tables (Step.allLines level (steps changes) ++ more) = [some (separated changes)] := by
  have hopens : opensTable (Line.plain level "$scheduledTasks = @(") = true := by
    rw [opensTable_plain]
    decide
  have hsub : [tableHead] ⊆ markedHeads := by decide
  have hblank : Line.Avoids [tableHead] ⟨"", false⟩ := Line.avoids_blank (by decide)
  have hrows := Line.avoids_map_line (avoids_rows changes) (level + 1)
  rw [Step.allLines_map_line] at hrows
  have hclose : Avoids [tableHead] ")" := avoids_ofList (by rfl)
  have happly := Line.avoids_fixed (f := applyText) (by simp [fixedTexts]) level
  have hbehind : ∀ l ∈ ((PowerSection.withCommas (changes.map row)).map
      (Line.plain (level + 1)) ++ [Line.plain level ")"]) ++
        (⟨"", false⟩ :: Step.allLines level applyText.steps ++ more), opensTable l = false := by
    simp only [List.forall_mem_append, List.forall_mem_cons]
    exact ⟨⟨fun l hl => not_opensTable_of_avoids ((hrows l hl).mono hsub),
        not_opensTable_of_avoids (Line.avoids_plain_iff.mpr hclose), List.forall_mem_nil _⟩,
      ⟨not_opensTable_of_avoids hblank,
        fun l hl => not_opensTable_of_avoids ((happly l hl).mono hsub)⟩, hmore⟩
  have hread := table?_tableLines hactions level
    (⟨"", false⟩ :: Step.allLines level applyText.steps ++ more)
  rw [allLines_steps, List.cons_append, tables, not_opensTable_of_avoids hblank,
    if_neg Bool.false_ne_true, List.append_assoc, tableLines, List.cons_append, tables,
    if_pos hopens, tables_eq_nil hbehind, ← List.cons_append, ← tableLines, hread]

end TaskBatch

/-! ## The other blocks -/

namespace Block

open TaskBatch

/-- **Only the block of tasks begins a table.** -/
theorem not_opensTable {b : Block} (hb : ∀ changes, b ≠ .tasks changes) (level : Int) :
    ∀ l ∈ Step.allLines level b.steps, opensTable l = false := by
  have hsub : [tableHead] ⊆ b.foreignHeads := by
    cases b with
    | tasks changes => exact absurd rfl (hb changes)
    | _ => simp [foreignHeads, markedHeads]
  exact fun l hl => not_opensTable_of_avoids ((b.avoids_foreignHeads level l hl).mono hsub)

theorem not_opensTable_allSteps {blocks : List Block} (h : ∀ changes, .tasks changes ∉ blocks)
    (level : Int) : ∀ l ∈ Step.allLines level (allSteps blocks), opensTable l = false := by
  intro l hl
  rw [Step.allLines_eq_flatMap, allSteps, List.flatMap_assoc] at hl
  obtain ⟨b, hb, hl⟩ := List.mem_flatMap.mp hl
  rw [← Step.allLines_eq_flatMap] at hl
  exact not_opensTable (fun changes heq => h changes (heq ▸ hb)) level l hl

end Block

/-! ## A section -/

namespace ChoiceSection

open TaskBatch

variable {sec : ChoiceSection} {settings : List Setting} {label : Option String} {w : Bool}

theorem not_mem_action {p : Choice × Setting} : ∀ t ∈ taskChanges p, '\'' ∉ t.action.toList := by
  intro t ht
  obtain ⟨path, -, rfl⟩ := List.mem_map.mp ht
  have hall : ∀ on, '\'' ∉ (actionFor on).toList := by decide
  exact hall p.1.isOn

theorem tables_draft_system (h : (sec.draft settings .system label).outcome = .ok w) (level : Int) :
    tables (Step.allLines level (Block.allSteps (sec.draft settings .system label).items)) =
      if (sec.kept settings).flatMap taskChanges = [] then []
      else [some (separated ((sec.kept settings).flatMap taskChanges))] := by
  by_cases hnone : (sec.kept settings).flatMap taskChanges = []
  · rw [if_pos hnone]
    refine tables_eq_nil (Block.not_opensTable_allSteps (fun changes hmem => ?_) level)
    obtain ⟨-, -, hchanges, hne⟩ := (tasks_mem_draft_iff h).mp hmem
    exact hne (hchanges.trans hnone)
  · obtain ⟨t, ht⟩ := List.exists_mem_of_ne_nil _ hnone
    obtain ⟨p, hp, ht⟩ := List.mem_flatMap.mp ht
    obtain ⟨changes, hmem, -⟩ := tasks_of_kept h hp ht
    obtain ⟨hw, -, -, -⟩ := (tasks_mem_draft_iff h).mp hmem
    obtain ⟨hchoices, _, -, heq⟩ := (draft_of_ok h).2.2 hw
    have htasks : taskBlocks .system (sec.kept settings) =
        [.tasks ((sec.kept settings).flatMap taskChanges)] := by
      simp only [taskBlocks]
      simp [hnone]
    have hactions : ∀ t ∈ (sec.kept settings).flatMap taskChanges, '\'' ∉ t.action.toList := by
      intro t ht
      obtain ⟨p, -, ht⟩ := List.mem_flatMap.mp ht
      exact not_mem_action t ht
    have hbefore : ∀ changes, Block.tasks changes ∉ .title (sec.titleText label) ::
        (sec.kept settings).flatMap fun p => (draftChoice .system p).items := by
      intro changes
      have htitle : Block.tasks changes ≠ .title (sec.titleText label) := by simp
      rw [List.mem_cons, not_or]
      exact ⟨htitle, tasks_not_mem_draftChoices hchoices changes⟩
    have hafter := tasks_not_mem_fixedBlocks sec .system
    have hsteps : Block.allSteps [.tasks ((sec.kept settings).flatMap taskChanges)] =
        TaskBatch.steps ((sec.kept settings).flatMap taskChanges) := List.append_nil _
    rw [if_neg hnone, heq, htasks, ← List.cons_append, Block.allSteps_append,
      Block.allSteps_append, Step.allLines_append, Step.allLines_append,
      tables_append (Block.not_opensTable_allSteps hbefore level), hsteps,
      tables_steps hactions level (Block.not_opensTable_allSteps hafter level)]

theorem tables_draft_user (h : (sec.draft settings .user label).outcome = .ok w) (level : Int) :
    tables (Step.allLines level (Block.allSteps (sec.draft settings .user label).items)) = [] := by
  refine tables_eq_nil (Block.not_opensTable_allSteps (fun changes hmem => ?_) level)
  obtain ⟨-, hphase, -⟩ := (tasks_mem_draft_iff h).mp hmem
  cases hphase

/-- What the choices of a section ask of scheduled tasks, in order: each that has a setting, picks
no power plan and is not for power alone enables all tasks of the setting or disables them. -/
def askedTasks (sec : ChoiceSection) (settings : List Setting) : List TaskChange :=
  sec.items.flatMap fun c =>
    match settingNamed? settings c.id with
    | none => []
    | some s =>
      if c.id = powerPlanSetting ∨ s.isPowerOnly = true then []
      else s.tasks.map fun path =>
        ⟨path, if c.isOn = true then "/Enable" else "/Disable", s.description⟩

theorem flatMap_taskChanges_kept (sec : ChoiceSection) (settings : List Setting) :
    (sec.kept settings).flatMap taskChanges = sec.askedTasks settings := by
  rw [kept, defined, askedTasks]
  induction sec.items with
  | nil => rfl
  | cons c cs ih =>
    rw [List.filterMap_cons, List.flatMap_cons, ← ih]
    cases settingNamed? settings c.id with
    | none => simp
    | some s =>
      by_cases hid : c.id = powerPlanSetting
      · simp [hid]
      · cases hpower : s.isPowerOnly <;> simp [hid, hpower, taskChanges, actionFor]

/-- **The scheduled tasks of a section are read back.** If both phases of a section can be drafted,
the lines of the system phase begin a table exactly if a choice asks something of a task; then they
begin one, and its rows are what all choices ask, in order and all but the last with a comma. The
lines of the user phase begin none. -/
theorem tables_read_back {w' : Bool} (hsystem : (sec.draft settings .system label).outcome = .ok w)
    (huser : (sec.draft settings .user label).outcome = .ok w') (level : Int) :
    let changes := sec.askedTasks settings
    tables (Step.allLines level (Block.allSteps (sec.draft settings .system label).items)) =
        (if changes = [] then [] else [some (separated changes)]) ∧
      tables (Step.allLines level (Block.allSteps (sec.draft settings .user label).items)) =
        [] := by
  refine ⟨?_, tables_draft_user huser level⟩
  rw [← flatMap_taskChanges_kept]
  exact tables_draft_system hsystem level

end ChoiceSection

/-! ## A table with quotes -/

/-- A setting with two tasks and quotes in its texts. -/
def feedback : Setting :=
  ⟨"feedback", "It's off", .toggle, [], ["\\Bob's, 'x'", "\\Ping"], [], [], [], false, false⟩

/-- A setting with one task. -/
def maintenance : Setting :=
  ⟨"maintenance", "Upkeep", .toggle, [], ["\\Defrag"], [], [], [], false, false⟩

/-- The choices that turn the one off and the other on. -/
def feedbackChoices : List Choice := [
  ⟨"feedback", .toggle, .bool false, none, none, .null, .null⟩,
  ⟨"maintenance", .toggle, .bool true, none, none, .null, .null⟩]

theorem tables_read_back_feedback :
    let sec : ChoiceSection := ⟨"privacy", feedbackChoices, true⟩
    let settings := [feedback, maintenance]
    TaskBatch.tables
        (Step.allLines 0 (Block.allSteps (sec.draft settings .system none).items)) =
          [some [(⟨"\\Bob's, 'x'", "/Disable", "It's off"⟩, true),
            (⟨"\\Ping", "/Disable", "It's off"⟩, true),
            (⟨"\\Defrag", "/Enable", "Upkeep"⟩, false)]] ∧
      TaskBatch.tables
        (Step.allLines 0 (Block.allSteps (sec.draft settings .user none).items)) = [] := by
  intro sec settings
  have hsystem : (sec.draft settings .system none).outcome = .ok true := rfl
  have huser : (sec.draft settings .user none).outcome = .ok false := rfl
  have hchanges : sec.askedTasks settings =
      [⟨"\\Bob's, 'x'", "/Disable", "It's off"⟩, ⟨"\\Ping", "/Disable", "It's off"⟩,
        ⟨"\\Defrag", "/Enable", "Upkeep"⟩] := rfl
  obtain ⟨htables, hnone⟩ := ChoiceSection.tables_read_back hsystem huser 0
  rw [hchanges, if_neg (List.cons_ne_nil _ _)] at htables
  exact ⟨htables, hnone⟩

end Provision
