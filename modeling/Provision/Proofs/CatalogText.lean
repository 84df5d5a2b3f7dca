import Mathlib
import Provision.Proofs.Excerpt

/-!
# Texts of the catalogue inside literals

* `RegistryFile.hereString?_steps_iff`: the content of a registry file is read back from its block,
  at every level, if and only if none of its lines ends a here-string.
* `PowerSection.table?`: the rows of the table of power values, read from the script.
* **`PowerSection.table?_iff`**: the values are read back if and only if no GUID holds a quote.
* **`Setting.literals_read_back_iff`**: both, for the blocks and rows of any setting.
-/

namespace Provision

open Excerpt

/-! ## Registry files -/

theorem Literal.mem_identifier {s : String} {c : Char} (h : c ∈ (identifier s).toList) :
    isNameChar c = true := by
  rw [identifier, String.toList_ofList] at h
  obtain ⟨b, -, rfl⟩ := List.mem_map.mp h
  split
  · assumption
  · decide

namespace RegistryFile

theorem isVariable_variableOf (setting : String) : IsVariable (variableOf setting) := by
  have hstart : "$regContent_".toList = '$' :: "regContent_".toList := rfl
  constructor
  · rw [variableOf, String.toList_append, hstart]
    rfl
  · rw [variableOf, String.toList_append, List.mem_append, not_or]
    refine ⟨by decide, fun hmem => ?_⟩
    have hname := Literal.mem_identifier hmem
    exact absurd hname (by decide)

theorem allStayRight_steps (s : Setting) (phase : Phase) (content : String) :
    Step.allStayRight (steps s phase content) = true := by
  cases phase <;> simp [steps, remapSteps, Step.allStayRight, Step.staysRight]

/-- **The content of a registry file is read back** from its block if and only if none of its lines
ends a here-string. -/
theorem hereString?_steps_iff (s : Setting) (phase : Phase) (content : String) (level : Int)
    (rest : List Char) :
    hereString? (variableOf s.id) (Step.written level (steps s phase content) ++ rest) =
        some (Step.dropLineFeeds content).toList ↔
      HasNoMark (Step.dropLineFeeds content).toList := by
  have hname := isVariable_variableOf s.id
  have htry : '\n' ∉ "try \x7b".toList := by decide
  have hhead : ("try \x7b".toList.dropWhile (· = ' ')).head? ≠ some '$' := by decide
  rw [Step.written, steps, Step.allLines, Step.lines, List.singleton_append, hereString?,
    afterLine?_of_head_ne (head?_assignment hname) htry hhead, ← hereString?, Step.allLines,
    Step.lines, List.cons_append, Step.allLines, List.append_assoc, hereString?_iff hname]

end RegistryFile

/-! ## The table of power values -/

namespace PowerSection

/-- Reads a row of the table. -/
def row? (cs : List Char) : Option (PowerValue × List Char) := do
  let (subgroup, cs) ← field? "@\x7b S=" literal? cs
  let (setting, cs) ← field? "; G=" literal? cs
  let (ac, cs) ← field? "; AC=" integer? cs
  let (dc, cs) ← field? "; DC=" integer? cs
  let (description, cs) ← field? "; N=" literal? cs
  let cs ← word? " \x7d" cs
  return (⟨subgroup, setting, ac, dc, description⟩, cs)

/-- Reads the values of the table. -/
def table? (cs : List Char) : Option (List PowerValue) :=
  ((afterLine? "$powerSettings = @(".toList cs).bind (items? row? false)).map Prod.fst

/-- No GUID holds a quote. -/
def HasPlainGuids (v : PowerValue) : Prop := '\'' ∉ v.subgroup.toList ∧ '\'' ∉ v.setting.toList

theorem toList_row (v : PowerValue) (rest : List Char) :
    (row v).toList ++ rest =
      "@\x7b S=".toList ++ ('\'' :: (v.subgroup.toList ++ '\'' ::
        ("; G=".toList ++ ('\'' :: (v.setting.toList ++ '\'' ::
          ("; AC=".toList ++ ((toString v.ac).toList ++
            ("; DC=".toList ++ ((toString v.dc).toList ++
              ("; N=".toList ++ ((Literal.quote v.description).toList ++
                (" \x7d".toList ++ rest)))))))))))) := by
  delta row
  simp

theorem row?_iff (v : PowerValue) (rest rest' : List Char) :
    row? ((row v).toList ++ rest) = some (v, rest') ↔ HasPlainGuids v ∧ rest' = rest := by
  rw [toList_row, row?, field?_append]
  constructor
  · intro h
    -- Field by field from the left: only when one is read back does the next begin where it should.
    obtain ⟨⟨subgroup, cs₁⟩, h₁, h⟩ := Option.bind_eq_some_iff.mp h
    obtain ⟨⟨setting, cs₂⟩, h₂, h⟩ := Option.bind_eq_some_iff.mp h
    obtain ⟨⟨ac, cs₃⟩, h₃, h⟩ := Option.bind_eq_some_iff.mp h
    obtain ⟨⟨dc, cs₄⟩, h₄, h⟩ := Option.bind_eq_some_iff.mp h
    obtain ⟨⟨description, cs₅⟩, h₅, h⟩ := Option.bind_eq_some_iff.mp h
    obtain ⟨cs₆, h₆, h⟩ := Option.bind_eq_some_iff.mp h
    obtain ⟨rfl, rfl⟩ := Prod.mk.inj (Option.some.inj h)
    obtain ⟨hsubgroup, rfl⟩ := (literal?_iff _ (by simp)).mp h₁
    rw [field?_append] at h₂
    obtain ⟨hsetting, rfl⟩ := (literal?_iff _ (by simp)).mp h₂
    rw [field?_append, integer?_append ac (by simp)] at h₃
    obtain rfl := (Prod.mk.inj (Option.some.inj h₃)).2
    rw [field?_append, integer?_append dc (by simp)] at h₄
    obtain rfl := (Prod.mk.inj (Option.some.inj h₄)).2
    rw [field?_append, literal?_quote description (by simp)] at h₅
    obtain rfl := (Prod.mk.inj (Option.some.inj h₅)).2
    rw [word?_append] at h₆
    exact ⟨⟨hsubgroup, hsetting⟩, (Option.some.inj h₆).symm⟩
  · rintro ⟨⟨hsubgroup, hsetting⟩, rfl⟩
    rw [(literal?_iff v.subgroup (by simp)).mpr ⟨hsubgroup, rfl⟩]
    simp only [Option.bind_eq_bind, Option.bind_some]
    rw [field?_append, (literal?_iff v.setting (by simp)).mpr ⟨hsetting, rfl⟩]
    simp only [Option.bind_some]
    rw [field?_append, integer?_append v.ac (by simp)]
    simp only [Option.bind_some]
    rw [field?_append, integer?_append v.dc (by simp)]
    simp only [Option.bind_some]
    rw [field?_append, literal?_quote v.description (by simp)]
    simp only [Option.bind_some]
    rw [word?_append]
    rfl

/-- What stands behind a row: a comma, unless it is the last. -/
def separatorText (more : Bool) : String := if more then "," else ""

theorem withCommas_cons (r : String) (rs : List String) :
    withCommas (r :: rs) = (r ++ separatorText (!rs.isEmpty)) :: withCommas rs := by
  cases rs with
  | nil => simp [withCommas, separatorText]
  | cons next rs => simp [withCommas, separatorText]

/-- The gap in front of the next row. -/
def gapAfter (more : Bool) : List Char := if more then ['\n'] else []

theorem isGap_gapAfter (more : Bool) : ∀ c ∈ gapAfter more, isGap c = true := by
  cases more <;> simp [gapAfter, isGap]

theorem separator?_row (more : Bool) (cs : List Char) :
    separator? ((separatorText more).toList ++ '\n' :: cs) = some (more, gapAfter more ++ cs) := by
  cases more <;> rfl

/-- A row with what stands behind it is read back before the other rows if and only if its GUIDs
hold no quote. -/
theorem items?_row_iff (level : Int) (v : PowerValue) (vs : List PowerValue) (due more : Bool)
    {gaps : List Char} (hgaps : ∀ c ∈ gaps, isGap c = true) (cs : List Char) :
    (items? row? due (gaps ++ ((Line.plain level (row v ++ separatorText more)).text.toList ++
        '\n' :: cs))).map Prod.fst = some (v :: vs) ↔
      HasPlainGuids v ∧ (items? row? more (gapAfter more ++ cs)).map Prod.fst = some vs := by
  have hhead : (row v ++ separatorText more).toList.head? = some '@' := by
    rw [String.toList_append, toList_row]
    rfl
  have hat : isGap '@' = false ∧ '@' ≠ ')' := by decide
  have htext : (row v ++ separatorText more).toList ++ '\n' :: cs =
      (row v).toList ++ ((separatorText more).toList ++ '\n' :: cs) := by
    rw [String.toList_append, List.append_assoc]
  have hread : HasPlainGuids v →
      (items? row? due (gaps ++ ((Line.plain level (row v ++ separatorText more)).text.toList ++
        '\n' :: cs))).map Prod.fst =
          ((items? row? more (gapAfter more ++ cs)).map Prod.fst).map (v :: ·) := by
    intro hv
    have hitem : row? ((row v ++ separatorText more).toList ++ '\n' :: cs) =
        some (v, (separatorText more).toList ++ '\n' :: cs) := by
      rw [htext, row?_iff]
      exact ⟨hv, rfl⟩
    have hlength : (gapAfter more ++ cs).length ≤ cs.length + 1 := by
      cases more <;> simp [gapAfter]
    rw [items?_of_item hgaps hhead hat hitem (separator?_row more cs) hlength, Option.map_map,
      Option.map_map]
    rfl
  constructor
  · intro h
    -- The row is read before its separator, so it settles the GUIDs before the rest is known.
    obtain ⟨⟨read, after⟩, hitems, rfl⟩ := Option.map_eq_some_iff.mp h
    obtain ⟨after', hrow⟩ := exists_item_of_items? hgaps hhead hat hitems
    rw [htext, row?_iff] at hrow
    rw [hread hrow.1] at h
    obtain ⟨read', hread', heq⟩ := Option.map_eq_some_iff.mp h
    rw [hread', (List.cons.inj heq).2]
    exact ⟨hrow.1, rfl⟩
  · rintro ⟨hv, hrest⟩
    rw [hread hv, hrest]
    rfl

/-- The rows of the table are read back, behind blanks and up to the bracket, if and only if no GUID
holds a quote. -/
theorem items?_rows_iff (level close : Int) (values : List PowerValue) {due : Bool}
    (hdue : due = true → values ≠ []) {gaps : List Char} (hgaps : ∀ c ∈ gaps, isGap c = true)
    (rest : List Char) :
    (items? row? due (gaps ++ (Step.charsOf ((withCommas (values.map row)).map (Line.plain level) ++
        [Line.plain close ")"]) ++ rest))).map Prod.fst = some values ↔
      ∀ v ∈ values, HasPlainGuids v := by
  induction values generalizing due gaps with
  | nil =>
    obtain rfl : due = false := by simpa using hdue
    rw [List.map_nil, withCommas, List.map_nil, List.nil_append, Step.charsOf_cons,
      List.append_assoc, items?_close hgaps]
    simp
  | cons v vs ih =>
    have hmore : (!vs.isEmpty) = true → vs ≠ [] := by simp
    rw [List.map_cons, withCommas_cons, List.map_cons, List.cons_append, Step.charsOf_cons,
      List.append_assoc, List.cons_append, List.isEmpty_map, items?_row_iff level v vs due _ hgaps,
      ih hmore (isGap_gapAfter _), List.forall_mem_cons]

/-- **The values are read back from the table** if and only if no GUID holds a quote. -/
theorem table?_iff (values : List PowerValue) (plan : Option PlanChoice) (level : Int)
    (rest : List Char) :
    table? (Step.written level (valueSteps values plan) ++ rest) = some values ↔
      ∀ v ∈ values, HasPlainGuids v := by
  have hfirst : '\n' ∉ "Write-Log 'Applying power settings...' 'INFO'".toList := by decide
  have hhead : ("Write-Log 'Applying power settings...' 'INFO'".toList.dropWhile
      (· = ' ')).head? ≠ some '$' := by decide
  have hopen : '\n' ∉ "$powerSettings = @(".toList := by decide
  have hlines : Step.allLines level (valueSteps values plan) =
      Line.plain level "Write-Log 'Applying power settings...' 'INFO'" ::
        Line.plain level "$powerSettings = @(" ::
          (((withCommas (values.map row)).map (Line.plain (level + 1)) ++ [Line.plain level ")"]) ++
            Step.allLines level
              (.line ("$targetPlanGuid = " ++ planExpression plan) :: applyText.steps)) := by
    simp [valueSteps, Step.allLines, Step.lines, Step.allLines_map_line]
  rw [Step.written, hlines, table?, afterLine?_of_head_ne rfl hfirst hhead,
    afterLine?_self rfl hopen, Option.bind_some, Step.charsOf_append, List.append_assoc]
  have hdue : false = true → values ≠ [] := fun h => absurd h Bool.false_ne_true
  exact items?_rows_iff (level + 1) level values hdue (List.forall_mem_nil _) _

theorem exists_valueSteps_of_steps? {plan : Option PlanChoice} {values : List PowerValue}
    {power? : Option (List Step)} (h : steps? plan values = .ok power?) (hne : values ≠ []) :
    ∃ before after, power?.getD [] = before ++ valueSteps values plan ++ after := by
  have hempty : values.isEmpty = false := by simpa using hne
  unfold steps? at h
  cases plan with
  | none =>
    cases hrows : values.all PowerValue.isWritable <;>
      simp only [hempty, hrows, bind, Except.bind, pure, Except.pure, throw, throwThe,
        MonadExceptOf.throw, Option.isNone_none, Bool.true_and, Bool.not_true, Bool.not_false,
        Bool.false_eq_true, if_true, if_false, reduceCtorEq, Except.ok.injEq] at h
    subst h
    exact ⟨.banner "POWER PLAN & POWERCFG SETTINGS" :: hiddenSettings, [], by simp⟩
  | some p =>
    cases hname : escapedName p.name <;> cases hguid : p.guid.isWritable <;>
      cases hrows : values.all PowerValue.isWritable <;>
      simp only [hempty, hname, hguid, hrows, bind, Except.bind, pure, Except.pure, throw, throwThe,
        MonadExceptOf.throw, Option.isNone_some, Bool.false_and, Bool.not_true, Bool.not_false,
        Bool.false_eq_true, if_true, if_false, reduceCtorEq, Except.ok.injEq] at h
    rename_i name
    subst h
    exact ⟨.banner "POWER PLAN & POWERCFG SETTINGS" ::
        (creationText p name).steps ++ hiddenSettings, (activationText p).steps, by simp⟩

theorem allStayRight_valueSteps (values : List PowerValue) (plan : Option PlanChoice) :
    Step.allStayRight (valueSteps values plan) = true := by
  rw [valueSteps, Fragment.steps]
  simp only [List.cons_append, List.nil_append, Step.allStayRight, Step.staysRight,
    Step.allStayRight_map_line]
  decide

end PowerSection

namespace Assembler

open Step

variable {a : Assembler} {config : Configuration} {snapshot : Snapshot} {script : String}

theorem standIn_of_block (h : (a.assemble config snapshot).outcome = .ok script) {body : PhaseBody}
    (hbody : (a.systemPhase config snapshot).outcome = .ok body ∨
      (a.userPhase config).outcome = .ok body)
    {b : Block} (hb : b ∈ body.blocks) (hright : allStayRight b.steps = true) :
    StandIn b.steps script := by
  obtain ⟨before, after, hblocks⟩ := List.append_of_mem hb
  have hsteps : body.steps = (body.before ++ Block.allSteps before) ++ b.steps ++
      (Block.allSteps after ++ body.after) := by
    simp [PhaseBody.steps, hblocks, Block.allSteps]
  exact standIn_of_body h hbody hright (.of_eq hsteps)

theorem standIn_valueSteps (h : (a.assemble config snapshot).outcome = .ok script)
    (hne : (a.powerValues snapshot).items ≠ []) :
    StandIn (PowerSection.valueSteps (a.powerValues snapshot).items (plan? config)) script := by
  obtain ⟨system, user, hsystem, -, -, -⟩ := assemble_of_ok h
  obtain ⟨power?, hpower, hbefore⟩ := before_of_ok hsystem
  obtain ⟨before, after, htable⟩ := PowerSection.exists_valueSteps_of_steps? hpower hne
  have hsteps : system.steps =
      (Workspace.scriptsFolder ++ (removalSection config).1.getD [] ++ before) ++
        PowerSection.valueSteps (a.powerValues snapshot).items (plan? config) ++
          (after ++ Block.allSteps system.blocks ++ system.after) := by
    simp [PhaseBody.steps, hbefore, htable]
  exact standIn_of_body h (.inl hsystem) (PowerSection.allStayRight_valueSteps _ _) (.of_eq hsteps)

end Assembler

/-! ## Any setting -/

/-- **Texts of the catalogue are read back from their literals** exactly if none of them breaks out:
the content of every registry file if no line of it ends a here-string, and the power values if no
GUID holds a quote. Both stand in the script as they are written on their own. -/
theorem Setting.literals_read_back_iff (s : Setting) :
    (∀ (c : Choice) (phase : Phase), ∀ b ∈ (draftPayloads phase (c, s)).items,
      ∃ y ∈ s.payloads, ∃ content, y.contentFor c.isOn = .str content ∧
        ∀ (level : Int) (rest : List Char),
          hereString? (RegistryFile.variableOf s.id) (Step.written level b.steps ++ rest) =
              some (Step.dropLineFeeds content).toList ↔
            HasNoMark (Step.dropLineFeeds content).toList) ∧
      (∀ (values : List PowerValue) (plan : Option PlanChoice) (level : Int) (rest : List Char),
        PowerSection.table? (Step.written level (PowerSection.valueSteps values plan) ++ rest) =
            some values ↔
          ∀ v ∈ values, PowerSection.HasPlainGuids v) ∧
      ∀ (a : Assembler) (config : Configuration) (snapshot : Snapshot) (script : String),
        (a.assemble config snapshot).outcome = .ok script →
          (∀ body, (a.systemPhase config snapshot).outcome = .ok body ∨
              (a.userPhase config).outcome = .ok body →
            ∀ phase content, Block.registryFile s phase content ∈ body.blocks →
              Step.StandIn (RegistryFile.steps s phase content) script) ∧
            ((a.powerValues snapshot).items ≠ [] →
              Step.StandIn (PowerSection.valueSteps (a.powerValues snapshot).items
                (Assembler.plan? config)) script) := by
  refine ⟨fun c phase b hb => ?_, fun values plan level rest => ?_, ?_⟩
  · obtain ⟨y, hy, content, hcontent, rfl⟩ := exists_of_mem_draftPayloads hb
    exact ⟨y, hy, content, hcontent,
      fun level rest => RegistryFile.hereString?_steps_iff s phase content level rest⟩
  · exact PowerSection.table?_iff values plan level rest
  · intro a config snapshot script h
    refine ⟨fun body hbody phase content hb => ?_, Assembler.standIn_valueSteps h⟩
    exact Assembler.standIn_of_block h hbody hb (RegistryFile.allStayRight_steps s phase content)

/-! ## A setting whose texts break out -/

/-- A document with a payload that ends its here-string and a GUID that ends its literal. -/
def breakingDocument : Value :=
  .map [(.str "id", .str "tweak"),
    (.str "reg_imports", .list [.map [(.str "enabled_content", .str "'@\ncalc\n")]]),
    (.str "powercfg",
      .list [.map [(.str "subgroup_guid", .str "a'b"), (.str "setting_guid", .str "c")]])]

/-- The setting of the document. -/
def breaking : Setting :=
  ⟨"tweak", "tweak", .toggle, [], [], [⟨.str "'@\ncalc\n", .null⟩], [⟨"a'b", "c", .separate⟩], [],
    false, false⟩

/-- The setting is turned on. -/
def breakingChoice : Choice := ⟨"tweak", .toggle, .bool true, none, none, .null, .null⟩

/-- **A setting of a document breaks out of both literals.** -/
theorem not_literals_read_back :
    Setting.ofValue breakingDocument "features" = .ok breaking ∧
      (∃ b ∈ (draftPayloads .system (breakingChoice, breaking)).items,
        hereString? (RegistryFile.variableOf breaking.id) (Step.written 0 b.steps) ≠
          some (Step.dropLineFeeds "'@\ncalc\n").toList) ∧
      ∃ v, (collectSetting [("c", ⟨.int 1, .int 2⟩)] true breaking).items = [v] ∧
        PowerSection.table? (Step.written 0 (PowerSection.valueSteps [v] none)) ≠ some [v] := by
  refine ⟨rfl, ⟨.registryFile breaking .system "'@\ncalc\n", ?_, ?_⟩,
    ⟨"a'b", "c", 1, 2, "tweak"⟩, rfl, ?_⟩
  · have hitems : (draftPayloads .system (breakingChoice, breaking)).items =
        [.registryFile breaking .system "'@\ncalc\n"] := rfl
    rw [hitems]
    exact List.mem_cons_self
  · intro heq
    rw [← List.append_nil (Step.written 0 _)] at heq
    have hfree := (RegistryFile.hereString?_steps_iff breaking .system "'@\ncalc\n" 0 []).mp heq
    have hfirst : ['\'', '@'] ∈
        Text.splitChars '\n' (Step.dropLineFeeds "'@\ncalc\n").toList := by decide
    exact absurd (hfree _ hfirst) (by decide)
  · intro heq
    rw [← List.append_nil (Step.written 0 _)] at heq
    have hplain := (PowerSection.table?_iff _ none 0 []).mp heq _ (List.mem_singleton.mpr rfl)
    exact hplain.1 (by decide)

end Provision
