import Mathlib.Data.List.Basic
import Provision.Part.Section

/-!
# The lines of the blocks of a section

* `opens`, `Avoids`: whether a line begins with a word behind blanks, and texts that begin with none
  of some words.
* **`Block.avoids_foreignHeads`**: how no line of a block begins.
* `Line.callsRegistry`: the lines that give registry commands.
* **`Block.filter_callsRegistry`**, **`Block.filter_verbatim`**: the registry commands among the
  lines of blocks are those of their targets, and the verbatim lines those of their registry files.
* `Block.Shows`: lines that stand among those of blocks in one piece, at every level.
-/

namespace Provision

/-! ## How lines begin -/

theorem Line.dropWhile_plain (level : Int) (text : String) :
    (Line.plain level text).text.toList.dropWhile (· = ' ') =
      text.toList.dropWhile (· = ' ') := by
  by_cases h : text = ""
  · rw [h, Line.plain_empty]
  · have hmargin : ∀ c ∈ (Line.margin level).toList, (decide (c = ' ')) = true := by
      simp [Line.margin, String.toList_join, Line.unit]
    simp only [Line.plain, if_neg h, String.toList_append]
    exact List.dropWhile_append_of_pos hmargin

theorem Step.allLines_map_line (level : Int) (texts : List String) :
    allLines level (texts.map line) = texts.map (Line.plain level) := by
  induction texts with
  | nil => rfl
  | cons text texts ih =>
    rw [List.map_cons, allLines, ih, lines]
    rfl

theorem Step.lines_infix_allLines (level : Int) {s : Step} {steps : List Step} (h : s ∈ steps) :
    lines level s <:+: allLines level steps := by
  obtain ⟨before, after, rfl⟩ := List.append_of_mem h
  rw [allLines_append, allLines]
  exact ⟨_, _, List.append_assoc _ _ _⟩

theorem Step.allLines_infix_of_indented (level : Int) {levels : Int} {inner steps : List Step}
    (h : indented levels inner ∈ steps) :
    allLines (level + levels) inner <:+: allLines level steps := by
  have hinner := lines_infix_allLines level h
  rwa [lines] at hinner

/-- Whether a line begins with a word, behind blanks. -/
def opens (word text : String) : Bool :=
  Text.startsWith word.toList (text.toList.dropWhile (· = ' '))

/-- Whether two texts differ before either of them ends. -/
def clashes : List Char → List Char → Bool
  | a :: as, b :: bs => a != b || clashes as bs
  | _, _ => false

theorem startsWith_of_clashes {as bs : List Char} (h : clashes as bs = true) (more : List Char) :
    Text.startsWith as (bs ++ more) = false := by
  induction as generalizing bs with
  | nil => cases h
  | cons a as ih =>
    cases bs with
    | nil => cases h
    | cons b bs =>
      rw [clashes, Bool.or_eq_true] at h
      rw [List.cons_append, Text.startsWith, List.isPrefixOf, Bool.and_eq_false_iff]
      rcases h with h | h
      · exact .inl (by simpa using h)
      · exact .inr (ih h)

theorem opens_append_eq {cs : List Char} (hne : cs.dropWhile (· = ' ') ≠ []) (ws : List Char)
    (more : String) : opens (String.ofList ws) (String.ofList cs ++ more) =
      Text.startsWith ws (cs.dropWhile (· = ' ') ++ more.toList) := by
  have hdrop : (cs ++ more.toList).dropWhile (· = ' ') = cs.dropWhile (· = ' ') ++ more.toList := by
    rw [List.dropWhile_append, if_neg (by simpa using hne)]
  rw [opens, String.toList_ofList, String.toList_append, String.toList_ofList, hdrop]

theorem opens_append {w : Char} {ws cs : List Char}
    (h : Text.startsWith (w :: ws) (cs.dropWhile (· = ' ')) = true) (more : String) :
    opens (String.ofList (w :: ws)) (String.ofList cs ++ more) = true := by
  have hne : cs.dropWhile (· = ' ') ≠ [] := by
    intro hnil
    rw [hnil] at h
    cases h
  rw [opens_append_eq hne]
  exact Text.startsWith_iff.mpr ((Text.startsWith_iff.mp h).trans (List.prefix_append _ _))

theorem not_opens_append {ws cs : List Char} (h : clashes ws (cs.dropWhile (· = ' ')) = true)
    (more : String) : opens (String.ofList ws) (String.ofList cs ++ more) = false := by
  have hne : cs.dropWhile (· = ' ') ≠ [] := by
    intro hnil
    rw [hnil] at h
    cases ws <;> cases h
  rw [opens_append_eq hne, startsWith_of_clashes h]

theorem not_opens_ofList {ws cs : List Char} (h : clashes ws (cs.dropWhile (· = ' ')) = true) :
    opens (String.ofList ws) (String.ofList cs) = false := by
  have hmore := not_opens_append h ""
  rwa [String.append_empty] at hmore

theorem not_opens_empty {w : Char} {ws : List Char} :
    opens (String.ofList (w :: ws)) "" = false := by
  rw [opens, String.toList_ofList]
  rfl

theorem opens_plain (word : String) (level : Int) (text : String) :
    opens word (Line.plain level text).text = opens word text := by
  rw [opens, Line.dropWhile_plain, opens]

theorem opens_unit (word text : String) : opens word (Line.unit ++ text) = opens word text := by
  have hblank : ∀ c ∈ Line.unit.toList, decide (c = ' ') = true := by simp [Line.unit]
  rw [opens, String.toList_append, List.dropWhile_append_of_pos hblank, opens]

namespace Fragment

theorem map_opens_inner (word : String) (f : Fragment) :
    (inner f).map (opens word) = f.map (opens word) := by
  rw [inner, List.map_map]
  refine List.map_congr_left fun t _ => ?_
  rw [Function.comp_apply]
  split
  · rename_i h
    rw [h]
  · exact opens_unit word t

theorem forall_not_opens_inner {word : String} {f : Fragment} :
    (∀ t ∈ inner f, opens word t = false) ↔ ∀ t ∈ f, opens word t = false := by
  have hall : ∀ g : Fragment, (∀ t ∈ g, opens word t = false) ↔
      ∀ b ∈ g.map (opens word), b = false := fun g => by
    rw [List.forall_mem_map]
  rw [hall, hall, map_opens_inner]

end Fragment

/-! ### Texts that begin with none of some words -/

/-- A text begins with none of some words. -/
def Avoids (heads : List (List Char)) (text : String) : Prop :=
  ∀ head ∈ heads, opens (String.ofList head) text = false

theorem Avoids.mono {heads more : List (List Char)} {text : String} (h : Avoids more text)
    (hsub : heads ⊆ more) : Avoids heads text := fun head hhead => h head (hsub hhead)

theorem avoids_append {heads : List (List Char)} {cs : List Char}
    (h : heads.all (clashes · (cs.dropWhile (· = ' '))) = true) (more : String) :
    Avoids heads (String.ofList cs ++ more) :=
  fun head hhead => not_opens_append (List.all_eq_true.mp h head hhead) more

theorem avoids_ofList {heads : List (List Char)} {cs : List Char}
    (h : heads.all (clashes · (cs.dropWhile (· = ' '))) = true) :
    Avoids heads (String.ofList cs) :=
  fun head hhead => not_opens_ofList (List.all_eq_true.mp h head hhead)

theorem avoids_empty {heads : List (List Char)} (h : ∀ head ∈ heads, head ≠ []) :
    Avoids heads "" := by
  intro head hhead
  obtain ⟨w, ws, rfl⟩ := List.exists_cons_of_ne_nil (h head hhead)
  exact not_opens_empty

theorem avoids_unit_iff {heads : List (List Char)} {text : String} :
    Avoids heads (Line.unit ++ text) ↔ Avoids heads text := by
  simp only [Avoids, opens_unit]

theorem Fragment.forall_avoids_inner {heads : List (List Char)} {f : Fragment} :
    (∀ t ∈ inner f, Avoids heads t) ↔ ∀ t ∈ f, Avoids heads t := by
  have hswap : ∀ g : Fragment, (∀ t ∈ g, Avoids heads t) ↔
      ∀ head ∈ heads, ∀ t ∈ g, opens (String.ofList head) t = false := by
    unfold Avoids
    tauto
  rw [hswap, hswap]
  exact forall₂_congr fun _ _ => forall_not_opens_inner

/-- What begins with a word begins with every part that the word begins with. -/
theorem opens_of_opens {ws : List Char} {word text : String} (hword : ws <+: word.toList)
    (h : opens word text = true) : opens (String.ofList ws) text = true := by
  rw [opens, Text.startsWith_iff] at h ⊢
  rw [String.toList_ofList]
  exact hword.trans h

/-! ### The lines that a section is read back from -/

/-- How titles and their rules begin. -/
def titleHead : List Char := ['#']

/-- How a table of tasks begins. -/
def tableHead : List Char := ['$', 's', 'c']

/-- How the lines below the banner of the hardening of updates begin. -/
def hardeningHead : List Char :=
  "Write-Log \"Applying Windows Update Disabled mode hardening".toList

/-- How registry commands begin. -/
def registryHeads : List (List Char) :=
  [['S', 'e', 't', '-', 'R'], ['S', 'e', 't', '-', 'B'], ['R', 'e', 'm', 'o', 'v', 'e', '-', 'R'],
    ['N', 'e', 'w', '-', 'R']]

/-- How titles, tables and registry commands begin. -/
def markedHeads : List (List Char) := titleHead :: tableHead :: registryHeads

theorem ne_nil_of_mem_markedHeads : ∀ head ∈ markedHeads, head ≠ [] := by decide

/-- A verbatim line, or one that begins with none of some words. -/
def Line.Avoids (heads : List (List Char)) (l : Line) : Prop :=
  l.verbatim = true ∨ Provision.Avoids heads l.text

namespace Line

variable {heads more : List (List Char)}

theorem Avoids.mono {l : Line} (h : l.Avoids more) (hsub : heads ⊆ more) : l.Avoids heads :=
  h.imp_right fun htext => htext.mono hsub

theorem avoids_plain_iff {level : Int} {text : String} :
    (plain level text).Avoids heads ↔ Provision.Avoids heads text := by
  have hplain : (plain level text).verbatim = false := rfl
  simp only [Avoids, Provision.Avoids, hplain, Bool.false_eq_true, false_or, opens_plain]

theorem avoids_blank (h : ∀ head ∈ heads, head ≠ []) : Avoids heads ⟨"", false⟩ :=
  .inr (avoids_empty h)

theorem avoids_rawLines (text : String) : ∀ l ∈ Step.rawLines text, l.Avoids heads :=
  List.forall_mem_map.mpr fun _ _ => .inl rfl

end Line

/-! ## How the lines of blocks begin -/

/-- The fixed texts that sections write. -/
def fixedTexts : List Fragment :=
  [TaskBatch.applyText, Hardening.updatesText, Wallpaper.stockText]

theorem avoids_of_mem_fixedTexts : ∀ f ∈ fixedTexts, ∀ t ∈ f, Avoids markedHeads t := by
  simp only [fixedTexts, TaskBatch.applyText, Hardening.updatesText, Wallpaper.stockText,
    Fragment.scope, Fragment.branches, Fragment.moreBranches, Fragment.list, List.cons_append,
    List.nil_append, List.forall_mem_append, List.forall_mem_cons, Fragment.forall_avoids_inner,
    List.not_mem_nil, false_imp_iff, implies_true, and_true, String.append_assoc]
  and_intros
  -- Each line differs from the words before either of them ends.
  all_goals with_reducible first
    | exact avoids_empty ne_nil_of_mem_markedHeads
    | refine avoids_ofList ?_
    | refine avoids_append ?_ _
  all_goals rfl

namespace Line

theorem avoids_map_line {texts : List String} {heads : List (List Char)}
    (h : ∀ t ∈ texts, Provision.Avoids heads t) (level : Int) :
    ∀ l ∈ Step.allLines level (texts.map Step.line), l.Avoids heads := by
  rw [Step.allLines_map_line]
  exact List.forall_mem_map.mpr fun t ht => avoids_plain_iff.mpr (h t ht)

theorem avoids_fixed {f : Fragment} (hf : f ∈ fixedTexts) (level : Int) :
    ∀ l ∈ Step.allLines level f.steps, l.Avoids markedHeads :=
  avoids_map_line (avoids_of_mem_fixedTexts f hf) level

end Line

theorem Statement.avoids_text (c : Statement) :
    Avoids [titleHead, tableHead, hardeningHead] c.text := by
  unfold text
  cases c <;> simp only [String.append_assoc]
  all_goals with_reducible refine avoids_append ?_ _
  all_goals rfl

theorem PowerStatement.avoids_text (p : PowerStatement) :
    Avoids (hardeningHead :: markedHeads) p.text := by
  unfold text
  cases p.side <;> simp only [String.append_assoc]
  all_goals with_reducible refine avoids_append ?_ _
  all_goals rfl

theorem TaskBatch.avoids_rows (changes : List TaskChange) :
    ∀ t ∈ PowerSection.withCommas (changes.map row), Avoids markedHeads t := by
  have hrow : ∀ (t : TaskChange) (more : String), Avoids markedHeads (row t ++ more) := by
    intro t more
    simp only [row, String.append_assoc]
    exact avoids_append (by rfl) _
  induction changes with
  | nil => exact List.forall_mem_nil _
  | cons t ts ih =>
    cases ts with
    | nil =>
      have hlast := hrow t ""
      rw [String.append_empty] at hlast
      exact List.forall_mem_singleton.mpr hlast
    | cons t' ts => exact List.forall_mem_cons.mpr ⟨hrow t ",", ih⟩

theorem RegistryFile.avoids_steps (s : Setting) (phase : Phase) (content : String) (level : Int) :
    ∀ l ∈ Step.allLines level (steps s phase content), l.Avoids markedHeads := by
  have hvariable : ∀ more, Avoids markedHeads (variableOf s.id ++ more) := by
    intro more
    rw [variableOf, String.append_assoc]
    exact avoids_append (by rfl) _
  have hremap : ∀ l ∈ Step.allLines (level + 1)
      (if phase = .user then remapSteps (variableOf s.id) else []), l.Avoids markedHeads := by
    split
    · simp only [remapSteps, Step.allLines, Step.lines, List.forall_mem_append,
        List.forall_mem_cons, Line.avoids_plain_iff, List.not_mem_nil, false_imp_iff, implies_true,
        and_true, String.append_assoc]
      exact ⟨avoids_ofList (by rfl), avoids_unit_iff.mpr (hvariable _), avoids_ofList (by rfl)⟩
    · exact List.forall_mem_nil _
  simp only [steps, Step.allLines, Step.lines, Step.allLines_append, List.forall_mem_append,
    List.forall_mem_cons, Line.avoids_plain_iff, List.cons_append, List.nil_append,
    List.not_mem_nil, false_imp_iff, implies_true, and_true, String.append_assoc]
  and_intros
  all_goals with_reducible first
    | exact hremap
    | exact Line.avoids_rawLines _
    | exact Line.avoids_blank ne_nil_of_mem_markedHeads
    | exact hvariable _
    | refine avoids_ofList ?_
    | refine avoids_append ?_ _
  all_goals rfl

theorem Line.avoids_banner (level : Int) (title : String) :
    ∀ l ∈ Step.lines level (.banner title), l.Avoids (tableHead :: registryHeads) := by
  have hrule : Provision.Avoids (tableHead :: registryHeads) Step.rule := avoids_append (by rfl) _
  have htitle : Provision.Avoids (tableHead :: registryHeads) ("# " ++ title) :=
    avoids_append (by rfl) _
  have hblank : Avoids (tableHead :: registryHeads) ⟨"", false⟩ := avoids_blank (by decide)
  simp only [Step.lines, List.forall_mem_cons, avoids_plain_iff]
  exact ⟨hblank, hrule, htitle, hrule, hblank, List.forall_mem_nil _⟩

namespace Block

/-- How no line of a block begins. -/
def foreignHeads : Block → List (List Char)
  | title _ | hardening => tableHead :: registryHeads
  | registry .. => [titleHead, tableHead]
  | tasks _ => titleHead :: registryHeads
  | _ => markedHeads

/-- **How no line of a block begins.** -/
theorem avoids_foreignHeads (b : Block) (level : Int) :
    ∀ l ∈ Step.allLines level b.steps, l.Avoids b.foreignHeads := by
  have hblank : Line.Avoids markedHeads ⟨"", false⟩ := Line.avoids_blank ne_nil_of_mem_markedHeads
  cases b with
  | title text =>
    rw [steps, Step.allLines, Step.allLines, List.append_nil]
    exact Line.avoids_banner level text
  | registry target value commands =>
    have htexts : ∀ t ∈ commands.map Statement.text, Avoids [titleHead, tableHead] t :=
      List.forall_mem_map.mpr fun c _ => c.avoids_text.mono (by simp)
    have hlines := Line.avoids_map_line htexts level
    rwa [List.map_map] at hlines
  | power setting command =>
    rw [steps, Step.allLines, Step.allLines, Step.lines, List.append_nil, List.forall_mem_singleton,
      Line.avoids_plain_iff]
    exact command.avoids_text.mono (List.subset_cons_self _ _)
  | powerDone description =>
    rw [steps, Step.allLines, Step.allLines, Step.lines, List.append_nil, List.forall_mem_singleton,
      Line.avoids_plain_iff, String.append_assoc]
    exact avoids_append (by rfl) _
  | registryFile setting phase content =>
    exact RegistryFile.avoids_steps setting phase content level
  | hibernation on =>
    simp only [steps, Workspace.hibernation, Step.allLines, Step.lines, List.forall_mem_append,
      List.forall_mem_singleton, Line.avoids_plain_iff, List.not_mem_nil, false_imp_iff,
      implies_true, and_true, String.append_assoc]
    exact ⟨hblank, avoids_append (by rfl) _, avoids_append (by rfl) _, avoids_append (by rfl) _⟩
  | tasks changes =>
    have happly := Line.avoids_fixed (f := TaskBatch.applyText) (by simp [fixedTexts]) level
    have hrows := Line.avoids_map_line (TaskBatch.avoids_rows changes) (level + 1)
    have hsub : titleHead :: registryHeads ⊆ markedHeads := by decide
    have hopen : Avoids (titleHead :: registryHeads) "$scheduledTasks = @(" :=
      avoids_ofList (by rfl)
    have hclose : Avoids (titleHead :: registryHeads) ")" := avoids_ofList (by rfl)
    simp only [steps, TaskBatch.steps, Step.allLines, Step.lines, List.cons_append,
      List.nil_append, List.forall_mem_append, List.forall_mem_cons, Line.avoids_plain_iff]
    exact ⟨hblank.mono hsub, hopen, fun l hl => (hrows l hl).mono hsub, hclose, hblank.mono hsub,
      fun l hl => (happly l hl).mono hsub⟩
  | wallpaper =>
    have htext := Line.avoids_fixed (f := Wallpaper.stockText) (by simp [fixedTexts]) level
    simp only [steps, Wallpaper.stock, Step.allLines, Step.lines, Step.allLines_append,
      List.cons_append, List.nil_append, List.append_nil, List.forall_mem_append,
      List.forall_mem_cons]
    exact ⟨hblank, htext, hblank, List.forall_mem_nil _⟩
  | hardening =>
    have htext := Line.avoids_fixed (f := Hardening.updatesText) (by simp [fixedTexts]) level
    have hsub : tableHead :: registryHeads ⊆ markedHeads := by decide
    rw [steps, Hardening.updates, Step.allLines_append, Step.allLines, List.forall_mem_append,
      List.forall_mem_append, Step.allLines, Step.allLines, Step.lines, List.append_nil,
      List.forall_mem_singleton]
    exact ⟨⟨Line.avoids_banner level _, fun l hl => (htext l hl).mono hsub⟩, hblank.mono hsub⟩

/-- The lines of blocks at a level. -/
def allLines (level : Int) (blocks : List Block) : List Line :=
  Step.allLines level (allSteps blocks)

theorem allLines_eq_flatMap (level : Int) (blocks : List Block) :
    allLines level blocks = blocks.flatMap fun b => Step.allLines level b.steps := by
  simp only [allLines, Step.allLines_eq_flatMap, allSteps, List.flatMap_assoc]

theorem allLines_cons (level : Int) (b : Block) (bs : List Block) :
    allLines level (b :: bs) = Step.allLines level b.steps ++ allLines level bs := by
  rw [allLines_eq_flatMap, List.flatMap_cons, ← allLines_eq_flatMap]

end Block

/-! ## Registry commands among lines -/

/-- The words that registry commands begin with. -/
def registryHelpers : List String :=
  ["Set-RegistryValue ", "Remove-RegistryValue ", "New-RegistryKey ", "Remove-RegistryKey ",
    "Set-BinaryBit ", "Set-BinaryByte "]

/-- A line that gives a registry command; verbatim lines belong to the texts of here-strings. -/
def Line.callsRegistry (l : Line) : Bool := !l.verbatim && registryHelpers.any (opens · l.text)

theorem Line.callsRegistry_of_avoids {l : Line} (h : l.Avoids registryHeads) :
    l.callsRegistry = false := by
  have hheads : ∀ helper ∈ registryHelpers, ∃ head ∈ registryHeads, head <+: helper.toList := by
    decide
  rw [callsRegistry, Bool.and_eq_false_iff, Bool.not_eq_false', List.any_eq_false]
  refine h.imp_right fun htext helper hhelper hopens => ?_
  obtain ⟨head, hhead, hbegin⟩ := hheads helper hhelper
  exact Bool.false_ne_true ((htext head hhead).symm.trans (opens_of_opens hbegin hopens))

theorem Statement.callsRegistry_plain (c : Statement) (level : Int) :
    (Line.plain level c.text).callsRegistry = true := by
  have hplain : (Line.plain level c.text).verbatim = false := rfl
  rw [Line.callsRegistry, hplain, Bool.not_false, Bool.true_and, List.any_eq_true]
  unfold text
  cases c <;> simp only [opens_plain, String.append_assoc]
  · exact ⟨"Set-RegistryValue ", by simp [registryHelpers], opens_append (by rfl) _⟩
  · exact ⟨"Remove-RegistryValue ", by simp [registryHelpers], opens_append (by rfl) _⟩
  · exact ⟨"New-RegistryKey ", by simp [registryHelpers], opens_append (by rfl) _⟩
  · exact ⟨"Remove-RegistryKey ", by simp [registryHelpers], opens_append (by rfl) _⟩
  · exact ⟨"Set-BinaryBit ", by simp [registryHelpers], opens_append (by rfl) _⟩
  · exact ⟨"Set-BinaryByte ", by simp [registryHelpers], opens_append (by rfl) _⟩

namespace Block

/-- The registry commands of a block. -/
def commands : Block → List Statement
  | registry _ _ commands => commands
  | _ => []

theorem filter_callsRegistry_steps (b : Block) (level : Int) :
    (Step.allLines level b.steps).filter Line.callsRegistry =
      b.commands.map fun c => Line.plain level c.text := by
  have hnone : registryHeads ⊆ b.foreignHeads →
      (Step.allLines level b.steps).filter Line.callsRegistry = [] := by
    intro hsub
    refine List.filter_eq_nil_iff.mpr fun l hl => ?_
    rw [Line.callsRegistry_of_avoids ((b.avoids_foreignHeads level l hl).mono hsub)]
    exact Bool.false_ne_true
  cases b with
  | registry target value commands =>
    have hlines : Step.allLines level (registry target value commands).steps =
        commands.map fun c => Line.plain level c.text := by
      have hmap := Step.allLines_map_line level (commands.map Statement.text)
      rwa [List.map_map, List.map_map] at hmap
    have hall : ∀ l ∈ commands.map fun c => Line.plain level c.text, l.callsRegistry = true :=
      List.forall_mem_map.mpr fun c _ => c.callsRegistry_plain level
    rw [hlines, List.filter_eq_self.mpr hall]
    rfl
  | _ => exact hnone (by simp [foreignHeads, markedHeads])

/-- **The registry commands among the lines of blocks** are those of their targets, in order and
each on a line of its own. -/
theorem filter_callsRegistry (level : Int) (blocks : List Block) :
    (allLines level blocks).filter Line.callsRegistry =
      (blocks.flatMap commands).map fun c => Line.plain level c.text := by
  rw [allLines_eq_flatMap, List.filter_flatMap, List.map_flatMap]
  simp only [filter_callsRegistry_steps]

end Block

/-! ## Verbatim lines -/

/-- The verbatim lines of a registry file: its text and the end of the here-string. -/
def RegistryFile.embeddedLines (content : String) : List Line :=
  Step.rawLines (Step.dropLineFeeds content) ++ [⟨"'@", true⟩]

theorem Step.filter_verbatim_map_line (level : Int) (texts : List String) :
    (allLines level (texts.map line)).filter Line.verbatim = [] := by
  rw [allLines_map_line, List.filter_eq_nil_iff]
  exact List.forall_mem_map.mpr fun _ _ => Bool.false_ne_true

theorem RegistryFile.filter_verbatim_steps (s : Setting) (phase : Phase) (content : String)
    (level : Int) :
    (Step.allLines level (steps s phase content)).filter Line.verbatim = embeddedLines content := by
  have hraw : (Step.rawLines (Step.dropLineFeeds content)).filter Line.verbatim =
      Step.rawLines (Step.dropLineFeeds content) :=
    List.filter_eq_self.mpr (List.forall_mem_map.mpr fun _ _ => rfl)
  have hend : Step.rawLines "'@" = [⟨"'@", true⟩] := by decide
  have hremap : (Step.allLines (level + 1)
      (if phase = .user then remapSteps (variableOf s.id) else [])).filter Line.verbatim = [] := by
    split <;> rfl
  simp [steps, embeddedLines, Step.allLines, Step.lines, Step.allLines_append, Line.plain, hraw,
    hend, hremap]

namespace Block

/-- The registry file that a block imports. -/
def embedded : Block → List String
  | registryFile _ _ content => [content]
  | _ => []

theorem filter_verbatim_steps (b : Block) (level : Int) :
    (Step.allLines level b.steps).filter Line.verbatim =
      b.embedded.flatMap RegistryFile.embeddedLines := by
  have hfixed : ∀ f : Fragment, (Step.allLines level f.steps).filter Line.verbatim = [] :=
    Step.filter_verbatim_map_line level
  cases b with
  | registryFile setting phase content =>
    rw [steps, RegistryFile.filter_verbatim_steps, embedded, List.flatMap_singleton]
  | registry target value commands =>
    have hlines := Step.filter_verbatim_map_line level (commands.map Statement.text)
    rwa [List.map_map] at hlines
  | tasks changes =>
    have hrows := Step.filter_verbatim_map_line (level + 1)
      (PowerSection.withCommas (changes.map TaskBatch.row))
    simp [steps, TaskBatch.steps, Step.allLines, Step.lines, Line.plain, embedded, hrows, hfixed]
  | wallpaper =>
    simp [steps, Wallpaper.stock, Step.allLines, Step.lines, Step.allLines_append, embedded, hfixed]
  | hardening =>
    simp [steps, Hardening.updates, Step.allLines, Step.lines, Step.allLines_append, Line.plain,
      embedded, hfixed]
  | _ => rfl

/-- **The verbatim lines among those of blocks** are those of their registry files, in order. -/
theorem filter_verbatim (level : Int) (blocks : List Block) :
    (allLines level blocks).filter Line.verbatim =
      (blocks.flatMap embedded).flatMap RegistryFile.embeddedLines := by
  rw [allLines_eq_flatMap, List.filter_flatMap, List.flatMap_assoc]
  simp only [filter_verbatim_steps]

end Block

/-! ## Lines that stand among those of blocks -/

theorem PowerSection.mem_withCommas {row : String} {rows : List String} (h : row ∈ rows) :
    ∃ comma ∈ ["", ","], row ++ comma ∈ withCommas rows := by
  induction rows with
  | nil => cases h
  | cons first rest ih =>
    cases rest with
    | nil =>
      obtain rfl := List.mem_singleton.mp h
      exact ⟨"", by simp, by simp [withCommas]⟩
    | cons next rest =>
      obtain rfl | h := List.mem_cons.mp h
      · exact ⟨",", by simp, List.mem_cons_self⟩
      · obtain ⟨comma, hcomma, hmem⟩ := ih h
        exact ⟨comma, hcomma, List.mem_cons_of_mem _ hmem⟩

namespace Block

/-- Some lines stand among those of blocks in one piece, at every level. -/
def Shows (blocks : List Block) (lines : Int → List Line) : Prop :=
  ∀ level, lines level <:+: allLines level blocks

variable {blocks : List Block}

theorem Shows.of_mem {b : Block} {lines : Int → List Line} (hb : b ∈ blocks)
    (h : ∀ level, lines level <:+: Step.allLines level b.steps) : Shows blocks lines := by
  intro level
  obtain ⟨before, after, rfl⟩ := List.append_of_mem hb
  rw [allLines_eq_flatMap, List.flatMap_append, List.flatMap_cons]
  exact (h level).trans ⟨_, _, List.append_assoc _ _ _⟩

theorem shows_power {s : Setting} {command : PowerStatement} (h : power s command ∈ blocks) :
    Shows blocks fun level => [Line.plain level command.text] :=
  .of_mem h fun _ => List.infix_rfl

theorem shows_hibernation {on : Bool} (h : hibernation on ∈ blocks) :
    Shows blocks fun level =>
      [Line.plain level ("powercfg /hibernate " ++ (if on = true then "on" else "off") ++
        " 2>$null")] :=
  .of_mem h fun _ => ⟨_ :: [_], [_], rfl⟩

theorem shows_registryFile {s : Setting} {phase : Phase} {content : String}
    (h : registryFile s phase content ∈ blocks) :
    Shows blocks fun level =>
      Line.plain (level + 1) (RegistryFile.variableOf s.id ++ " = @'") ::
        RegistryFile.embeddedLines content := by
  refine .of_mem h fun level => ?_
  have hend : Step.rawLines "'@" = [⟨"'@", true⟩] := by decide
  have hlines : Line.plain (level + 1) (RegistryFile.variableOf s.id ++ " = @'") ::
      RegistryFile.embeddedLines content =
      Step.lines (level + 1) (.hereString (RegistryFile.variableOf s.id) content) := by
    rw [RegistryFile.embeddedLines, Step.lines, hend, List.cons_append]
  rw [hlines]
  -- the here-string is the first of the indented steps
  exact (Step.lines_infix_allLines (level + 1) List.mem_cons_self).trans
    (Step.allLines_infix_of_indented level (List.mem_cons_of_mem _ List.mem_cons_self))

theorem shows_row {changes : List TaskChange} {change : TaskChange} (h : tasks changes ∈ blocks)
    (hchange : change ∈ changes) : ∃ comma ∈ ["", ","],
      Shows blocks fun level => [Line.plain (level + 1) (TaskBatch.row change ++ comma)] := by
  obtain ⟨comma, hcomma, hmem⟩ :=
    PowerSection.mem_withCommas (List.mem_map_of_mem (f := TaskBatch.row) hchange)
  refine ⟨comma, hcomma, .of_mem h fun level => ?_⟩
  have hrow : Step.line (TaskBatch.row change ++ comma) ∈
      (PowerSection.withCommas (changes.map TaskBatch.row)).map Step.line :=
    List.mem_map_of_mem hmem
  exact (Step.lines_infix_allLines (level + 1) hrow).trans
    (Step.allLines_infix_of_indented level (by simp [steps, TaskBatch.steps]))

end Block

end Provision
