import Mathlib
import Provision.Proofs.Compilable

/-!
# Values that a choice brings

A choice may bring values of its own, which come before the value table and before on and off.

* `Setting.resolved`: the targets of a phase with their values, as the phase gets them.
* `Setting.values?`: the values that a choice brings, or that the table has for it.
* `Setting.assignments_of_values`: what the targets get from them, those of the choice or those of
  the table.
* `Setting.Overrides`: these values win, each for the targets it names, once and in their phase.
* **`Setting.overrides_iff`**: they win exactly if the names of those that belong to no target can
  be reported.
-/

namespace Provision

/-- Whether values name a target. -/
def Entries.names (values : Entries) (t : Target) : Bool := (values.getText? t.lookupKey).isSome

/-- Whether a notice is a warning. -/
def Notice.isWarning (n : Notice) : Bool :=
  match n.entry with
  | .note .warning _ _ => true
  | _ => false

/-- The value that a target gets from a choice with values: the one that names it, or else, for a
toggle, the one for on or off. -/
def Choice.wanted? (c : Choice) (values : Entries) (t : Target) : Option Value :=
  match values.getText? t.lookupKey with
  | some v => some v
  | none => if c.kind = .selection then none else some (t.valueFor c.isOn)

namespace Setting

variable {s : Setting} {c : Choice} {values : Entries} {phase : Phase}

/-- The targets of a phase with their values, as the phase gets them. -/
def resolved (s : Setting) (c : Choice) (phase : Phase) : Draft Block (List Assignment) :=
  .reported (s.assignments c phase)

/-! ## What is resolved -/

theorem chosenValues_of_custom (hcustom : c.custom = some values) :
    s.chosenValues c = (some values, []) := by
  rw [chosenValues, hcustom]

theorem wanted?_of_selection (hc : c.kind = .selection) (t : Target) :
    c.wanted? values t = values.getText? t.lookupKey := by
  unfold Choice.wanted?
  cases values.getText? t.lookupKey <;> simp [hc]

theorem assignFrom_eq (values : Entries) (targets : List Target) :
    assignFrom values targets =
      targets.filterMap fun t => (values.getText? t.lookupKey).map fun v => ⟨t, v⟩ := rfl

/-- The values that a choice brings, or that the table has for it; a toggle has only its own. -/
def values? (s : Setting) (c : Choice) : Option Entries :=
  match c.kind with
  | .selection => (s.chosenValues c).1
  | .toggle => c.custom
  | .powerPlan => none

theorem values?_of_selection (hkind : c.kind = .selection) :
    s.values? c = (s.chosenValues c).1 := by
  rw [values?, hkind]

theorem values?_of_custom (hkind : c.kind ≠ .powerPlan) (hcustom : c.custom = some values) :
    s.values? c = some values := by
  cases hc : c.kind with
  | powerPlan => exact absurd hc hkind
  | selection => rw [values?_of_selection hc, chosenValues_of_custom hcustom]
  | toggle => rw [values?, hc, hcustom]

theorem assignments_of_values (hid : s.id ≠ powerPlanSetting) (hvalues : s.values? c = some values)
    (phase : Phase) :
    (s.assignments c phase).1 =
      (s.targetsFor phase).filterMap fun t => (c.wanted? values t).map fun v => ⟨t, v⟩ := by
  by_cases htargets : s.targetsFor phase = []
  · rw [assignments_of_targetsFor_nil htargets, htargets]
    rfl
  cases hc : c.kind with
  | powerPlan =>
    rw [values?, hc] at hvalues
    cases hvalues
  | selection =>
    rw [values?_of_selection hc] at hvalues
    simp only [assignments_of_selection hid hc htargets, hvalues, wanted?_of_selection hc,
      assignFrom_eq]
  | toggle =>
    have hempty : (s.targetsFor phase).isEmpty = false := by simpa using htargets
    have hcustom : c.custom = some values := by rwa [values?, hc] at hvalues
    have hwanted : ∀ t : Target, c.wanted? values t =
        some (((c.custom.getD []).getText? t.lookupKey).getD (t.valueFor c.isOn)) := by
      intro t
      unfold Choice.wanted?
      rw [hcustom, Option.getD_some]
      cases values.getText? t.lookupKey <;> simp [hc]
    unfold assignments
    simp only [hc, hid, hempty, hwanted, assignToggle, reduceCtorEq, decide_false, Bool.or_self,
      Bool.false_eq_true, if_false, Option.map_some]
    simp

theorem assignments_of_custom (hid : s.id ≠ powerPlanSetting) (hkind : c.kind ≠ .powerPlan)
    (hcustom : c.custom = some values) (phase : Phase) :
    (s.assignments c phase).1 =
      (s.targetsFor phase).filterMap fun t => (c.wanted? values t).map fun v => ⟨t, v⟩ :=
  assignments_of_values hid (values?_of_custom hkind hcustom) phase

theorem wanted?_of_getText? {t : Target} {v : Value} (h : values.getText? t.lookupKey = some v) :
    c.wanted? values t = some v := by
  rw [Choice.wanted?, h]

theorem map_target_filterMap (f : Target → Option Value) (targets : List Target) :
    (targets.filterMap fun t => (f t).map fun v => (⟨t, v⟩ : Assignment)).map Assignment.target =
      targets.filter fun t => (f t).isSome := by
  induction targets with
  | nil => rfl
  | cons t ts ih => cases h : f t <;> simp [h, ih]

/-- Of what is resolved, the targets that the values name are those with these values. -/
theorem filter_names_of_custom (hid : s.id ≠ powerPlanSetting) (hkind : c.kind ≠ .powerPlan)
    (hcustom : c.custom = some values) (phase : Phase) :
    ((s.assignments c phase).1.filter fun a => values.names a.target) =
      assignFrom values (s.targetsFor phase) := by
  rw [assignments_of_custom hid hkind hcustom, assignFrom_eq]
  induction s.targetsFor phase with
  | nil => rfl
  | cons t ts ih =>
    cases hv : values.getText? t.lookupKey with
    | some v =>
      have hnamed : values.names t = true := by rw [Entries.names, hv, Option.isSome_some]
      simp [wanted?_of_getText? hv, hv, hnamed, ih]
    | none =>
      have hnamed : values.names t = false := by rw [Entries.names, hv, Option.isSome_none]
      cases hw : c.wanted? values t <;> simp [hv, hw, hnamed, ih]

/-- A target stands in what is resolved where it stands in the catalogue. -/
theorem exists_assignments_eq (hid : s.id ≠ powerPlanSetting) (hkind : c.kind ≠ .powerPlan)
    (hcustom : c.custom = some values) {before after : List Target} {t : Target} {v : Value}
    (htargets : s.targets = before ++ t :: after) (hphase : t.phase = phase)
    (hv : values.getText? t.lookupKey = some v) :
    ∃ earlier later, (s.assignments c phase).1 = earlier ++ ⟨t, v⟩ :: later ∧
      (earlier.map Assignment.target).Sublist before ∧
      (later.map Assignment.target).Sublist after := by
  have hfor : s.targetsFor phase = (before.filter fun t => t.phase == phase) ++
      t :: after.filter fun t => t.phase == phase := by
    rw [targetsFor, htargets, List.filter_append, List.filter_cons_of_pos (by simp [hphase])]
  have hpart : ∀ targets : List Target,
      (((targets.filter fun t => t.phase == phase).filterMap fun t =>
        (c.wanted? values t).map fun v => (⟨t, v⟩ : Assignment)).map
          Assignment.target).Sublist targets := by
    intro targets
    rw [map_target_filterMap]
    exact List.filter_sublist.trans List.filter_sublist
  rw [assignments_of_custom hid hkind hcustom, hfor, List.filterMap_append, List.filterMap_cons,
    wanted?_of_getText? hv]
  exact ⟨_, _, rfl, hpart before, hpart after⟩

/-! ## What is reported -/

theorem isWarning_of_mem_assignments (hcustom : c.custom = some values) :
    ∀ n ∈ (s.assignments c phase).2, n.isWarning = false := by
  have hchosen := chosenValues_of_custom (s := s) hcustom
  intro n hn
  unfold assignments at hn
  simp only [hchosen, List.nil_append] at hn
  split at hn
  · exact absurd hn List.not_mem_nil
  split at hn
  · obtain ⟨e, -, rfl⟩ := List.mem_map.mp hn
    rfl
  · exact absurd hn List.not_mem_nil

/-- The names of values that belong to no target can be reported, where that is done. -/
def UnmatchedFit (s : Setting) (c : Choice) (values : Entries) (phase : Phase) : Prop :=
  c.kind = .selection → s.targetsFor phase ≠ [] →
    ∀ e ∈ values, s.isMatched e.1 = false → e.1.isWritable = true

theorem chosenValues_of_some (h : (s.chosenValues c).1 = some values) :
    s.chosenValues c = (some values, []) := by
  unfold chosenValues at h ⊢
  split at h
  · cases h
    rfl
  split at h
  · cases h
  split at h
  · cases h
  split at h <;> simp_all

theorem outcome_resolved_of_values (hid : s.id ≠ powerPlanSetting)
    (hvalues : c.kind = .selection → s.values? c = some values) {as : List Assignment} :
    (s.resolved c phase).outcome = .ok as ↔
      as = (s.assignments c phase).1 ∧ s.UnmatchedFit c values phase := by
  rw [resolved, Draft.outcome_reported_iff, assignments_isWritable_iff hid, UnmatchedFit]
  refine and_congr_right fun _ => forall_congr' fun hc => forall_congr' fun _ => ?_
  have hchosen : (s.chosenValues c).1 = some values := by
    rw [← values?_of_selection hc, hvalues hc]
  have hindex : s.IndexFits c := by
    rw [← chosenValues_isWritable_iff, chosenValues_of_some hchosen]
    exact List.forall_mem_nil _
  simp [hindex, NamesFit, hchosen]

theorem outcome_resolved_iff (hid : s.id ≠ powerPlanSetting) (hcustom : c.custom = some values)
    {as : List Assignment} :
    (s.resolved c phase).outcome = .ok as ↔
      as = (s.assignments c phase).1 ∧ s.UnmatchedFit c values phase :=
  outcome_resolved_of_values hid fun hc => values?_of_custom (by simp [hc]) hcustom

/-! ## Whose values win -/

/-- The values that a choice brings win in a phase, in which `as` is resolved. -/
structure Overrides (s : Setting) (c : Choice) (values : Entries) (phase : Phase)
    (as : List Assignment) : Prop where
  /-- A target of the phase that they name gets its value, once and where it stands. -/
  placed : ∀ before t after v, s.targets = before ++ t :: after → t.phase = phase →
    values.getText? t.lookupKey = some v →
      ∃ earlier later, as = earlier ++ ⟨t, v⟩ :: later ∧
        (earlier.map Assignment.target).Sublist before ∧
        (later.map Assignment.target).Sublist after
  /-- No target of the other phase gets a value. -/
  owned : ∀ a ∈ as, a.target.phase = phase
  /-- A choice among values gives one to no other target. -/
  named : c.kind = .selection → as.map Assignment.target = (s.targetsFor phase).filter values.names
  /-- Nothing is warned of. -/
  quiet : ∀ n ∈ (s.resolved c phase).notices, n.isWarning = false
  /-- The index, on and off, and the value table do not matter. -/
  stable : ∀ index isSelected table, ∃ as',
    (({ s with table := table } : Setting).resolved
      { c with index := index, isSelected := isSelected } phase).outcome = .ok as' ∧
    (as'.filter fun a => values.names a.target) = as.filter fun a => values.names a.target

theorem overrides_of_unmatchedFit (hid : s.id ≠ powerPlanSetting) (hkind : c.kind ≠ .powerPlan)
    (hcustom : c.custom = some values) (hfit : s.UnmatchedFit c values phase) :
    s.Overrides c values phase (s.assignments c phase).1 where
  placed before t after v htargets hphase hv :=
    exists_assignments_eq hid hkind hcustom htargets hphase hv
  owned a ha := phase_of_mem_assignments ha
  named hc := by
    rw [assignments_of_custom hid hkind hcustom, map_target_filterMap]
    refine List.filter_congr fun t _ => ?_
    rw [wanted?_of_selection hc, Entries.names]
  quiet := by
    have hok : (s.resolved c phase).outcome = .ok (s.assignments c phase).1 :=
      (outcome_resolved_iff hid hcustom).mpr ⟨rfl, hfit⟩
    rw [resolved, (Draft.reported_of_ok hok).2]
    exact isWarning_of_mem_assignments hcustom
  stable index isSelected table := by
    refine ⟨_, (outcome_resolved_iff (s := { s with table := table })
      (c := { c with index := index, isSelected := isSelected }) hid hcustom).mpr ⟨rfl, hfit⟩, ?_⟩
    rw [filter_names_of_custom (s := { s with table := table })
      (c := { c with index := index, isSelected := isSelected }) hid hkind hcustom,
      filter_names_of_custom hid hkind hcustom]
    rfl

/-- **The values that a choice brings win** in a phase exactly if the names of those that belong to
no target can be reported there; and over both phases a choice among values gives exactly the
targets that they name their values. -/
theorem overrides_iff (hid : s.id ≠ powerPlanSetting) (hkind : c.kind ≠ .powerPlan)
    (hcustom : c.custom = some values) :
    (∀ phase, (∃ as, (s.resolved c phase).outcome = .ok as ∧ s.Overrides c values phase as) ↔
      s.UnmatchedFit c values phase) ∧
    (c.kind = .selection → ∀ system user, (s.resolved c .system).outcome = .ok system →
      (s.resolved c .user).outcome = .ok user →
        ((system ++ user).map Assignment.target).Perm (s.targets.filter values.names)) := by
  have hiff : ∀ phase, (∃ as, (s.resolved c phase).outcome = .ok as ∧
      s.Overrides c values phase as) ↔ s.UnmatchedFit c values phase := by
    intro phase
    constructor
    · rintro ⟨as, hok, -⟩
      exact ((outcome_resolved_iff hid hcustom).mp hok).2
    · intro hfit
      exact ⟨_, (outcome_resolved_iff hid hcustom).mpr ⟨rfl, hfit⟩,
        overrides_of_unmatchedFit hid hkind hcustom hfit⟩
  refine ⟨hiff, fun hc system user hsystem huser => ?_⟩
  obtain ⟨rfl, hfit⟩ := (outcome_resolved_iff hid hcustom).mp hsystem
  obtain ⟨rfl, hfit'⟩ := (outcome_resolved_iff hid hcustom).mp huser
  rw [List.map_append, (overrides_of_unmatchedFit hid hkind hcustom hfit).named hc,
    (overrides_of_unmatchedFit hid hkind hcustom hfit').named hc, ← List.filter_append]
  exact s.targetsFor_perm.filter _

end Setting

/-! ## A choice with values of its own -/

/-- A document of a choice among values, which brings one for a target and one for another name. -/
def bringingDocument (other : Value) : Value :=
  .map [(.str "id", .str "mode"), (.str "inputType", .str "selection"),
    (.str "customStateValues", .map [(.str "Mode", .str "on time"), (.str "KeyExists", .null),
      (other, .int 1)])]

/-- The values of the document. -/
def broughtValues (other : Value) : Entries :=
  [(.str "Mode", .str "on time"), (.str "KeyExists", .null), (other, .int 1)]

/-- The choice of the document. -/
def bringingChoice (other : Value) : Choice :=
  ⟨"mode", .selection, .null, none, some (broughtValues other), .null, .null⟩

/-- A setting with a value of the machine and a key of the user. -/
def modeSetting : Setting :=
  ⟨"mode", "Mode", .selection,
    [⟨"HKLM\\Software", some "Mode", .string, .null, .null, .plain⟩,
      ⟨"HKCU\\Software\\Mode", none, .dword, .null, .null, .subkey⟩], [], [], [], [], false, false⟩

/-- The values win next to a name that belongs to no target, in both phases. -/
theorem overrides_iff_mode :
    Choice.ofValue (bringingDocument (.int 255)) "item" = .ok (bringingChoice (.int 255)) ∧
      modeSetting.id ≠ powerPlanSetting ∧ (bringingChoice (.int 255)).kind ≠ .powerPlan ∧
      (∃ as, (modeSetting.resolved (bringingChoice (.int 255)) .system).outcome = .ok as ∧
        modeSetting.Overrides (bringingChoice (.int 255)) (broughtValues (.int 255)) .system as) ∧
      ∃ as, (modeSetting.resolved (bringingChoice (.int 255)) .user).outcome = .ok as ∧
        modeSetting.Overrides (bringingChoice (.int 255)) (broughtValues (.int 255)) .user as := by
  have hid : modeSetting.id ≠ powerPlanSetting := by decide
  have hkind : (bringingChoice (.int 255)).kind ≠ .powerPlan := by decide
  have hfit : ∀ phase, modeSetting.UnmatchedFit (bringingChoice (.int 255))
      (broughtValues (.int 255)) phase := by
    intro phase _ _
    simp only [broughtValues, List.forall_mem_cons]
    exact ⟨fun _ => rfl, fun _ => rfl, fun _ => by decide +kernel, List.forall_mem_nil _⟩
  have hcustom : (bringingChoice (.int 255)).custom = some (broughtValues (.int 255)) := rfl
  have hiff := (Setting.overrides_iff hid hkind hcustom).1
  exact ⟨rfl, hid, hkind, (hiff .system).mpr (hfit .system), (hiff .user).mpr (hfit .user)⟩

/-- A number with too many digits. -/
def hugeName : Value := .int Numeral.limit

/-- **A name that belongs to no target keeps the values from winning**: it cannot be reported. -/
theorem not_overrides_huge :
    Choice.ofValue (bringingDocument hugeName) "item" = .ok (bringingChoice hugeName) ∧
      (broughtValues hugeName).getText? "Mode" = some (.str "on time") ∧
      ∀ as, (modeSetting.resolved (bringingChoice hugeName) .system).outcome ≠ .ok as := by
  refine ⟨rfl, rfl, fun as hok => ?_⟩
  have hid : modeSetting.id ≠ powerPlanSetting := by decide
  have hfit := ((Setting.outcome_resolved_iff hid rfl).mp hok).2
  have hsystem : modeSetting.targetsFor .system ≠ [] := by
    rw [Ne, ← List.isEmpty_iff]
    decide +kernel
  have hwritable := hfit rfl hsystem (hugeName, .int 1) (by simp [broughtValues]) rfl
  have hhuge : hugeName.isWritable = false := by
    rw [hugeName, Value.isWritable, Numeral.fits, Int.natAbs_natCast]
    exact decide_eq_false (lt_irrefl Numeral.limit)
  exact Bool.false_ne_true (hhuge.symm.trans hwritable)

end Provision
