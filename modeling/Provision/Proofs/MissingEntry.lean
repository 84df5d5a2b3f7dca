import Mathlib
import Provision.Proofs.Override

/-!
# Targets that the table gives no value

A choice by index looks up a row of the value table, and in it the entry of each target.

* `Setting.tableValue?`: the entry of a target in the row of the chosen index.
* `mem_assignments_of_mem_draftChoice`: a choice writes registry commands for nothing but what is
  resolved, also where drafting breaks off.
* **`Setting.missing_entry_warned_iff`**: a target without an entry is left out in both phases, and
  a warning names the setting exactly if the whole row is missing, under an index that can be
  reported.
-/

namespace Provision

/-- A notice warns in words that hold a name. -/
def Notice.WarnsOf (n : Notice) (name : String) : Prop :=
  ∃ topic message, n.entry = .note .warning topic message ∧ name.toList <:+: message.toList

/-! ## What is written -/

theorem assignment?_of_mem_draftPower {phase : Phase} {p : Choice × Setting} {b : Block}
    (h : b ∈ (draftPower phase p).items) : b.assignment? = none := by
  unfold draftPower at h
  split at h
  swap
  · exact absurd h List.not_mem_nil
  rcases Draft.mem_items_bind h with h | ⟨values, -, h⟩
  · simp at h
  rcases Draft.mem_items_bind h with h | ⟨commands, -, h⟩
  · exact absurd h List.not_mem_nil
  cases hempty : commands.isEmpty <;>
    simp only [hempty, if_true, Bool.false_eq_true, if_false, Draft.pure_eq, Draft.write_eq,
      List.not_mem_nil, List.mem_append, List.mem_map, List.mem_singleton] at h
  obtain ⟨_, -, rfl⟩ | rfl := h <;> rfl

theorem assignment_of_mem_draftAssignment {description : String} {a : Assignment} {b : Block}
    (h : b ∈ (draftAssignment description a).items) : b.assignment? = some a := by
  rcases Draft.mem_items_bind h with h | ⟨_, -, h⟩
  · unfold Draft.report at h
    split at h <;> exact absurd h List.not_mem_nil
  rcases Draft.mem_items_bind h with h | ⟨commands, -, h⟩
  · exact absurd h List.not_mem_nil
  · obtain rfl := List.mem_singleton.mp h
    rfl

/-- A choice writes registry commands for nothing but what is resolved, also where its drafting
breaks off. -/
theorem mem_assignments_of_mem_draftChoice {phase : Phase} {p : Choice × Setting} {b : Block}
    {a : Assignment} (h : b ∈ (draftChoice phase p).items) (ha : b.assignment? = some a) :
    a ∈ (p.2.assignments p.1 phase).1 := by
  have hother : b.assignment? ≠ none := by simp [ha]
  rcases Draft.mem_items_bind h with h | ⟨as, has, h⟩
  · simp at h
  obtain ⟨rfl, -⟩ := Draft.reported_of_ok has
  rcases Draft.mem_items_bind h with h | ⟨_, -, h⟩
  · obtain ⟨a', ha', hb⟩ := Draft.exists_of_mem_each h
    rw [assignment_of_mem_draftAssignment hb] at ha
    exact Option.some.inj ha ▸ ha'
  rcases Draft.mem_items_bind h with h | ⟨_, -, h⟩
  · exact absurd (assignment?_of_mem_draftPower h) hother
  rcases Draft.mem_items_bind h with h | ⟨_, -, h⟩
  · obtain ⟨_, -, _, -, rfl⟩ := exists_of_mem_draftPayloads h
    exact absurd rfl hother
  split at h
  · obtain rfl := List.mem_singleton.mp h
    exact absurd rfl hother
  · exact absurd h List.not_mem_nil

/-! ## What is looked up -/

namespace Setting

variable {s : Setting} {c : Choice} {phase : Phase} {t : Target}

/-- The entry of a target in the row of the chosen index. -/
def tableValue? (s : Setting) (c : Choice) (t : Target) : Option Value :=
  (c.index.bind s.row?).bind fun row => row.getText? t.lookupKey

theorem chosenValues_of_row {row : Entries} (hcustom : c.custom = none)
    (hrow : c.index.bind s.row? = some row) : s.chosenValues c = (some row, []) := by
  obtain ⟨index, hindex, hrow⟩ := Option.bind_eq_some_iff.mp hrow
  have htable : s.table.isEmpty = false := by
    cases htable : s.table with
    | nil => simp [row?, htable, Table.get?] at hrow
    | cons e es => rfl
  simp only [chosenValues, hcustom, hindex, htable, hrow, Bool.false_eq_true, if_false]

/-- Without a row, whatever the reason, there is one notice, which warns of the setting. -/
theorem chosenValues_of_no_row (hcustom : c.custom = none) (hrow : c.index.bind s.row? = none) :
    ∃ n, s.chosenValues c = (none, [n]) ∧ n.WarnsOf s.id := by
  cases hindex : c.index with
  | none =>
    refine ⟨.choiceMissing s.id, by rw [chosenValues, hcustom, hindex], _, _, rfl, ?_⟩
    simp only [String.toList_append]
    exact List.infix_append _ _ _
  | some index =>
    have hrow : s.row? index = none := by simpa [hindex] using hrow
    by_cases htable : s.table.isEmpty = true
    · refine ⟨.tableMissing s.id, ?_, _, _, rfl, ?_⟩
      · simp only [chosenValues, hcustom, hindex, htable, if_true]
      · simp only [String.toList_append]
        exact List.infix_append _ _ _
    · refine ⟨.indexUnlisted index s.id, ?_, _, _, rfl, ?_⟩
      · simp only [chosenValues, hcustom, hindex, htable, hrow, if_false, Bool.false_eq_true]
      · simp only [String.toList_append]
        exact List.infix_append _ _ _

theorem tableValue?_of_mem_assignments (hkind : c.kind = .selection) (hcustom : c.custom = none)
    {a : Assignment} (h : a ∈ (s.assignments c phase).1) :
    s.tableValue? c a.target = some a.value := by
  by_cases hid : s.id = powerPlanSetting
  · simp [assignments, hid] at h
  by_cases htargets : s.targetsFor phase = []
  · simp [assignments_of_targetsFor_nil htargets] at h
  rw [assignments_of_selection hid hkind htargets] at h
  cases hrow : c.index.bind s.row? with
  | none =>
    obtain ⟨n, hchosen, -⟩ := chosenValues_of_no_row hcustom hrow
    simp [hchosen] at h
  | some row =>
    simp only [chosenValues_of_row hcustom hrow, assignFrom_eq, List.mem_filterMap,
      Option.map_eq_some_iff] at h
    obtain ⟨t, -, v, hv, rfl⟩ := h
    rw [tableValue?, hrow]
    exact hv

theorem not_warnsOf_of_mem_unmatched {values : Entries} {n : Notice} (h : n ∈ s.unmatched values)
    (name : String) : ¬n.WarnsOf name := by
  obtain ⟨e, -, rfl⟩ := List.mem_map.mp h
  rintro ⟨topic, message, hentry, -⟩
  cases hentry

theorem notices_resolved (s : Setting) (c : Choice) (phase : Phase) :
    (s.resolved c phase).notices = (s.assignments c phase).2.takeWhile Notice.isWritable := by
  unfold resolved Draft.reported Draft.report
  split
  · rename_i hall
    have hself : (s.assignments c phase).2.takeWhile Notice.isWritable =
        (s.assignments c phase).2 :=
      List.takeWhile_eq_self_iff.mpr (List.all_eq_true.mp hall)
    rw [Draft.bind_of_ok rfl, hself]
    exact List.append_nil _
  · rfl

/-- **A target without an entry is left out in both phases. A warning names the setting exactly if
no row is there at all**, and its index can be reported; an entry that a row lacks is passed over in
silence. -/
theorem missing_entry_warned_iff (hid : s.id ≠ powerPlanSetting) (hkind : c.kind = .selection)
    (hcustom : c.custom = none) (ht : t ∈ s.targets) (hentry : s.tableValue? c t = none) :
    (∀ phase, ∀ b ∈ (draftChoice phase (c, s)).items, ∀ a, b.assignment? = some a →
      a.target ≠ t) ∧
    ((∃ n ∈ (s.resolved c t.phase).notices, n.WarnsOf s.id) ↔
      c.index.bind s.row? = none ∧ s.IndexFits c) := by
  constructor
  · rintro phase b hb a ha rfl
    have hmem := mem_assignments_of_mem_draftChoice hb ha
    have hfound := tableValue?_of_mem_assignments hkind hcustom hmem
    exact Option.some_ne_none _ (hfound.symm.trans hentry)
  have htargets : s.targetsFor t.phase ≠ [] :=
    List.ne_nil_of_mem (List.mem_filter.mpr ⟨ht, beq_self_eq_true _⟩)
  rw [notices_resolved, assignments_of_selection hid hkind htargets, ← chosenValues_isWritable_iff]
  cases hrow : c.index.bind s.row? with
  | none =>
    obtain ⟨n, hchosen, hwarns⟩ := chosenValues_of_no_row hcustom hrow
    cases hn : n.isWritable <;> simp [hchosen, hn, hwarns]
  | some row =>
    simp only [chosenValues_of_row hcustom hrow, List.nil_append, reduceCtorEq, false_and,
      iff_false]
    rintro ⟨n, hmem, hwarns⟩
    have hmem : n ∈ s.unmatched row := (List.takeWhile_sublist _).mem hmem
    exact not_warnsOf_of_mem_unmatched hmem s.id hwarns

end Setting

/-! ## A row that the table lacks, and a row that lacks an entry -/

/-- A document of a setting with two values, of which its only row has one. -/
def themeDocument : Value :=
  .map [(.str "id", .str "theme"), (.str "input_type", .str "selection"),
    (.str "registry", .list [
      .map [(.str "key_path", .str "HKCU\\Theme"), (.str "value_name", .str "Apps")],
      .map [(.str "key_path", .str "HKCU\\Theme"), (.str "value_name", .str "System")]]),
    (.str "value_mappings", .map [(.str "0", .map [(.str "Apps", .int 1)])])]

/-- A target of the document. -/
def themeTarget (name : String) : Target :=
  ⟨"HKCU\\Theme", some name, .dword, .null, .null, .plain⟩

/-- The setting of the document. -/
def themeSetting : Setting :=
  ⟨"theme", "theme", .selection, [themeTarget "Apps", themeTarget "System"], [], [], [],
    [(0, [(.str "Apps", .int 1)])], false, false⟩

/-- A document of a choice by index. -/
def indexDocument (index : Int) : Value :=
  .map [(.str "id", .str "theme"), (.str "selectedIndex", .int index)]

/-- The choice of the document. -/
def indexChoice (index : Int) : Choice :=
  ⟨"theme", .selection, .null, some index, none, .null, .null⟩

/-- An index without a row is warned of, and nothing is written. -/
theorem missing_entry_warned_iff_row :
    Setting.ofValue themeDocument "setting" = .ok themeSetting ∧
      Choice.ofValue (indexDocument 9) "item" = .ok (indexChoice 9) ∧
      themeTarget "System" ∈ themeSetting.targets ∧
      themeSetting.tableValue? (indexChoice 9) (themeTarget "System") = none ∧
      (∀ phase, ∀ b ∈ (draftChoice phase (indexChoice 9, themeSetting)).items, ∀ a,
        b.assignment? = some a → a.target ≠ themeTarget "System") ∧
      ∃ n ∈ (themeSetting.resolved (indexChoice 9) (themeTarget "System").phase).notices,
        n.WarnsOf themeSetting.id := by
  have hid : themeSetting.id ≠ powerPlanSetting := by decide
  have ht : themeTarget "System" ∈ themeSetting.targets := by simp [themeSetting]
  have hentry : themeSetting.tableValue? (indexChoice 9) (themeTarget "System") = none := rfl
  have hfits : themeSetting.IndexFits (indexChoice 9) := by
    intro index _ hindex _ _
    obtain rfl : 9 = index := Option.some.inj hindex
    decide +kernel
  have hwarned := Setting.missing_entry_warned_iff hid rfl rfl ht hentry
  exact ⟨rfl, rfl, ht, hentry, hwarned.1, hwarned.2.mpr ⟨rfl, hfits⟩⟩

/-- **An entry that the row lacks is passed over in silence**: the setting is applied by half. -/
theorem not_missing_entry_warned :
    Setting.ofValue themeDocument "setting" = .ok themeSetting ∧
      Choice.ofValue (indexDocument 0) "item" = .ok (indexChoice 0) ∧
      themeTarget "System" ∈ themeSetting.targets ∧
      themeSetting.tableValue? (indexChoice 0) (themeTarget "System") = none ∧
      (themeSetting.resolved (indexChoice 0) (themeTarget "System").phase).outcome =
        .ok [⟨themeTarget "Apps", .int 1⟩] ∧
      ¬∃ n ∈ (themeSetting.resolved (indexChoice 0) (themeTarget "System").phase).notices,
        n.WarnsOf themeSetting.id := by
  have hphase : (themeTarget "System").phase = .user := by decide +kernel
  have hresolved : themeSetting.resolved (indexChoice 0) .user =
      ⟨.ok [⟨themeTarget "Apps", .int 1⟩], [], []⟩ := rfl
  rw [hphase, hresolved]
  refine ⟨rfl, rfl, by simp [themeSetting], rfl, rfl, ?_⟩
  rintro ⟨n, hn, -⟩
  exact absurd hn List.not_mem_nil

end Provision
