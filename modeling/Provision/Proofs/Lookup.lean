import Provision.Proofs.Delivery
import Provision.Proofs.Report

/-!
# What an assembly looks up

* `Notice.isLookup`, `Clean`: the notices about what was looked up in vain, and reports without any.
* `Setting.Resolves`: the values of a choice are found.
* `ChoiceSection.clean_drafts_iff`: what has to be found for both passes over a section.
* `Found`: everything that a configuration names is found.
* **`Assembler.clean_iff_found`**: then, and only then, an assembly is clean.
-/

namespace Provision

/-! ## Clean reports -/

/-- The notices about what was looked up in vain: features, settings, values of choices, and names
of apps. -/
def Notice.isLookup : Notice → Bool
  | featureUnknown _ | settingUnknown .. => true
  | choiceMissing _ | tableMissing _ | indexUnlisted .. => true
  | removalNameless _ => true
  | _ => false

/-- Nothing was looked up in vain. -/
def Clean (notices : List Notice) : Prop := ∀ n ∈ notices, n.isLookup = false

@[simp] theorem clean_nil : Clean [] := fun _ hn => absurd hn List.not_mem_nil

@[simp] theorem clean_append {notices more : List Notice} :
    Clean (notices ++ more) ↔ Clean notices ∧ Clean more := List.forall_mem_append

@[simp] theorem clean_flatMap {α : Type} {xs : List α} {f : α → List Notice} :
    Clean (xs.flatMap f) ↔ ∀ x ∈ xs, Clean (f x) := by
  simp only [Clean, List.mem_flatMap]
  exact ⟨fun h x hx n hn => h n ⟨x, hx, hn⟩, fun h n ⟨x, hx, hn⟩ => h x hx n hn⟩

/-! ## One choice -/

/-- The values that a choice asks for are found. -/
def Setting.Resolves (s : Setting) (c : Choice) : Prop := (s.chosenValues c).2 = []

namespace Setting

variable {s : Setting} {c : Choice} {phase : Phase}

theorem clean_chosenValues_iff : Clean (s.chosenValues c).2 ↔ s.Resolves c := by
  unfold Resolves chosenValues
  split
  · simp
  split
  · simp [Clean, Notice.isLookup]
  split
  · simp [Clean, Notice.isLookup]
  split <;> simp [Clean, Notice.isLookup]

/-- The values of a choice among values are found if it brings its own, or if there is a row at its
index. -/
theorem resolves_iff :
    s.Resolves c ↔ c.custom.isSome = true ∨ ∃ index, c.index = some index ∧
      (s.row? index).isSome = true := by
  unfold Resolves chosenValues
  cases hcustom : c.custom with
  | some values => simp
  | none =>
    cases hindex : c.index with
    | none => simp
    | some index =>
      cases hrow : s.row? index with
      | some row =>
        have htable : s.table ≠ [] := by
          intro hnil
          simp [row?, hnil, Table.get?] at hrow
        simp [hrow, htable]
      | none =>
        simp only [hrow]
        split <;> simp [hrow]

theorem clean_unmatched (values : Entries) : Clean (s.unmatched values) := by
  intro n hn
  obtain ⟨e, -, rfl⟩ := List.mem_map.mp hn
  rfl

theorem clean_assignments_iff :
    Clean (s.assignments c phase).2 ↔
      (c.kind = .selection → s.id ≠ powerPlanSetting → s.targetsFor phase ≠ [] → s.Resolves c) := by
  by_cases hasked : c.kind = .selection ∧ s.id ≠ powerPlanSetting ∧ s.targetsFor phase ≠ []
  · obtain ⟨hkind, hid, htargets⟩ := hasked
    have hclean : Clean (s.assignments c phase).2 ↔ Clean (s.chosenValues c).2 := by
      rw [assignments_of_selection hid hkind htargets]
      cases (s.chosenValues c).1 with
      | none => rfl
      | some values => simp [clean_unmatched]
    rw [hclean, clean_chosenValues_iff]
    exact ⟨fun h _ _ _ => h, fun h => h hkind hid htargets⟩
  · have hnone : (s.assignments c phase).2 = [] := by
      rw [assignments]
      simp only
      split
      · rfl
      split
      · simp_all
      · rfl
    rw [hnone]
    exact iff_of_true clean_nil fun hkind hid htargets => absurd ⟨hkind, hid, htargets⟩ hasked

end Setting

theorem clean_draftPower_iff {phase : Phase} {p : Choice × Setting} {u : Unit}
    (h : (draftPower phase p).outcome = .ok u) :
    Clean (draftPower phase p).notices ↔ (asksPower phase p → p.2.Resolves p.1) := by
  by_cases hp : asksPower phase p
  · obtain ⟨_, -, heq⟩ := draftPower_of_ok h hp
    rw [heq, Setting.clean_chosenValues_iff]
    exact ⟨fun h _ => h, fun h => h hp⟩
  · rw [draftPower_of_not_asksPower hp]
    exact iff_of_true clean_nil fun hp' => absurd hp' hp

/-- A choice that is drafted in a phase is clean if its values are found, where it is asked for
any. -/
theorem clean_draftChoice_iff {phase : Phase} {p : Choice × Setting} {u : Unit}
    (h : (draftChoice phase p).outcome = .ok u) :
    Clean (draftChoice phase p).notices ↔
      (p.1.kind = .selection → p.2.id ≠ powerPlanSetting → p.2.targetsFor phase ≠ [] →
        p.2.Resolves p.1) ∧ (asksPower phase p → p.2.Resolves p.1) := by
  obtain ⟨hregistry, hpower, -, heq⟩ := draftChoice_eq h
  have hregistry : Clean
      (Draft.each (draftAssignment p.2.description) (p.2.assignments p.1 phase).1).notices := by
    rw [(Draft.each_of_ok hregistry).2]
    exact clean_flatMap.mpr fun a _ => draftAssignment_reports _ a rfl
  rw [heq, clean_append, clean_append, Setting.clean_assignments_iff, clean_draftPower_iff hpower]
  exact and_congr_right fun _ => and_iff_right hregistry

/-! ## Sections -/

namespace ChoiceSection

variable {sec : ChoiceSection} {settings : List Setting} {phase : Phase} {label : Option String}

theorem clean_lookupNotices_iff :
    Clean (sec.lookupNotices settings) ↔
      ∀ c ∈ sec.items, (settingNamed? settings c.id).isSome = true := by
  simp only [Clean, lookupNotices, List.mem_filterMap]
  constructor
  · intro h c hc
    by_contra hnone
    have hnone : settingNamed? settings c.id = none := by simpa using hnone
    have hfound := h (.settingUnknown c.id sec.feature) ⟨c, hc, by rw [hnone]⟩
    cases hfound
  · rintro h n ⟨c, hc, hn⟩
    obtain ⟨s, hs⟩ := Option.isSome_iff_exists.mp (h c hc)
    rw [hs] at hn
    simp only at hn
    split at hn
    · cases hn
    · exact Option.some.inj hn ▸ rfl

theorem clean_draft_iff {w : Bool} (h : (sec.draft settings phase label).outcome = .ok w) :
    Clean (sec.draft settings phase label).notices ↔
      (∀ c ∈ sec.items, (settingNamed? settings c.id).isSome = true) ∧
        (w = true → ∀ p ∈ sec.kept settings, Clean (draftChoice phase p).notices) := by
  obtain ⟨-, hout, hin⟩ := draft_of_ok h
  cases w with
  | false => simp [hout rfl, clean_lookupNotices_iff]
  | true =>
    obtain ⟨-, empty, hempty, heq⟩ := hin rfl
    have hempty : Clean empty := fun n hn => hempty n hn ▸ rfl
    rw [heq]
    simp [clean_lookupNotices_iff, hempty]

theorem resolves_of_clean {w : Bool} (h : (sec.draft settings phase label).outcome = .ok w)
    (hclean : Clean (sec.draft settings phase label).notices) {p : Choice × Setting}
    (hp : p ∈ sec.kept settings) (hkind : p.1.kind = .selection)
    (htargets : p.2.targetsFor phase ≠ []) : p.2.Resolves p.1 := by
  have hw : w = true :=
    written_of_mem_kept h hp fun hnone => htargets (of_entersPhase_false hnone).1
  have hok := draftChoice_ok_of_mem_kept h hw hp
  have hchoice := ((clean_draft_iff h).mp hclean).2 hw p hp
  exact ((clean_draftChoice_iff hok).mp hchoice).1 hkind (setting_id_ne hp) htargets

theorem clean_of_resolves {w : Bool} (h : (sec.draft settings phase label).outcome = .ok w)
    (hknown : ∀ c ∈ sec.items, (settingNamed? settings c.id).isSome = true)
    (hfound : ∀ p ∈ sec.kept settings, p.1.kind = .selection → p.2.targets ≠ [] →
      p.2.Resolves p.1) : Clean (sec.draft settings phase label).notices := by
  refine (clean_draft_iff h).mpr ⟨hknown, fun hw p hp => ?_⟩
  have hok := draftChoice_ok_of_mem_kept h hw hp
  refine (clean_draftChoice_iff hok).mpr ⟨fun hkind _ htargets => ?_, fun hasks => ?_⟩
  · refine hfound p hp hkind fun hnil => htargets ?_
    rw [Setting.targetsFor, hnil, List.filter_nil]
  · -- a setting with power settings is kept for its targets
    have hpower := (mem_kept_iff.mp hp).2
    exact hfound p hp hasks.1 fun hnil => by simp [Setting.isPowerOnly, hnil, hasks.2.2] at hpower

/-- Both passes over a section are clean if all its settings are known, and the values of every
choice found that it carries out for a setting with registry targets. -/
theorem clean_drafts_iff {label' : Option String} {w w' : Bool}
    (h : (sec.draft settings .system label).outcome = .ok w)
    (h' : (sec.draft settings .user label').outcome = .ok w') :
    Clean (sec.draft settings .system label).notices ∧
        Clean (sec.draft settings .user label').notices ↔
      (∀ c ∈ sec.items, (settingNamed? settings c.id).isSome = true) ∧
        ∀ p ∈ sec.kept settings, p.1.kind = .selection → p.2.targets ≠ [] →
          p.2.Resolves p.1 := by
  constructor
  · rintro ⟨hsystem, huser⟩
    refine ⟨((clean_draft_iff h).mp hsystem).1, fun p hp hkind htargets => ?_⟩
    by_contra hunresolved
    have hsystem' : p.2.targetsFor .system = [] := by
      by_contra hne
      exact hunresolved (resolves_of_clean h hsystem hp hkind hne)
    have huser' : p.2.targetsFor .user = [] := by
      by_contra hne
      exact hunresolved (resolves_of_clean h' huser hp hkind hne)
    exact htargets (p.2.targets_nil_of_targetsFor_nil hsystem' huser')
  · rintro ⟨hknown, hfound⟩
    exact ⟨clean_of_resolves h hknown hfound, clean_of_resolves h' hknown hfound⟩

end ChoiceSection

/-! ## The whole configuration -/

/-- Everything that a configuration names is found. -/
structure Found (catalog : Catalog) (config : Configuration) : Prop where
  /-- Included features are known. -/
  features : ∀ sec ∈ config.sections, sec.isIncluded = true →
    (catalog.settings? sec.feature).isSome = true
  /-- Settings are known in their features. -/
  settings : ∀ sec ∈ config.sections, ∀ settings, sec.active? catalog = some settings →
    ∀ c ∈ sec.items, (settingNamed? settings c.id).isSome = true
  /-- The values of choices for settings with registry targets are found. -/
  values : ∀ sec ∈ config.sections, ∀ settings, sec.active? catalog = some settings →
    ∀ p ∈ sec.kept settings, p.1.kind = .selection → p.2.targets ≠ [] → p.2.Resolves p.1
  /-- Apps have a name, or are one of the two that need none. -/
  apps : ∀ item ∈ config.removals, item.name = "" →
    item.id = RemovalPlan.edgeItem ∨ item.id = RemovalPlan.oneDriveItem

theorem RemovalPlan.clean_addAll_iff (p : RemovalPlan) (items : List RemovalItem) :
    Clean (p.addAll items).2 ↔ ∀ item ∈ items, item.name = "" →
      item.id = edgeItem ∨ item.id = oneDriveItem := by
  induction items generalizing p with
  | nil => simp [addAll]
  | cons item items ih =>
    have hadd : Clean (p.add item).2 ↔
        (item.name = "" → item.id = edgeItem ∨ item.id = oneDriveItem) := by
      unfold add
      split
      · simp_all
      split
      · simp_all
      split <;> simp_all [Clean, Notice.isLookup]
    rw [List.forall_mem_cons, ← hadd, ← ih (p.add item).1, ← clean_append]
    rfl

theorem Assembler.clean_removalSection_iff (config : Configuration) :
    Clean (removalSection config).2 ↔ ∀ item ∈ config.removals, item.name = "" →
      item.id = RemovalPlan.edgeItem ∨ item.id = RemovalPlan.oneDriveItem := by
  rw [← RemovalPlan.empty.clean_addAll_iff, removalSection]
  split
  · rename_i hempty
    simp [List.isEmpty_iff.mp hempty, RemovalPlan.addAll]
  · rw [Removal.section?, RemovalPlan.ofItems]
    simp only
    split
    · rfl
    · rw [clean_append]
      exact and_iff_left (List.forall_mem_singleton.mpr rfl)

section Groups

variable {catalog : Catalog} {phase : Phase}

theorem clean_draftGroups_iff {gs : List ChoiceGroup} {n : Nat}
    (h : (draftGroups catalog phase gs).outcome = .ok n) :
    Clean (draftGroups catalog phase gs).notices ↔
      ∀ sec ∈ gs.flatMap ChoiceGroup.sections, Clean (draftSection catalog phase sec).notices := by
  obtain ⟨hall, heq⟩ := draftGroups_of_ok h
  have hgroup : ∀ g ∈ gs,
      (Clean (if g.sections.isEmpty then [] else (g.draft catalog phase).notices) ↔
        ∀ sec ∈ g.sections, Clean (draftSection catalog phase sec).notices) := by
    intro g hg
    split
    · rename_i hempty
      simp [List.isEmpty_iff.mp hempty]
    · rename_i hne
      obtain ⟨k, hk⟩ := hall g hg (by simpa using hne)
      obtain ⟨hsecs, hdraft⟩ := ChoiceGroup.draft_of_ok hk
      rw [hdraft, clean_append, (draftSections_of_ok hsecs).2, clean_flatMap]
      exact and_iff_left (List.forall_mem_singleton.mpr rfl)
  rw [heq, clean_flatMap]
  simp only [List.mem_flatMap]
  exact ⟨fun hclean sec ⟨g, hg, hsec⟩ => (hgroup g hg).mp (hclean g hg) sec hsec,
    fun hclean g hg => (hgroup g hg).mpr fun sec hsec => hclean sec ⟨g, hg, hsec⟩⟩

theorem clean_draftSections_iff {sec : ChoiceSection} {n m : Nat}
    (h : (draftSection catalog .system sec).outcome = .ok n)
    (h' : (draftSection catalog .user sec).outcome = .ok m) :
    Clean (draftSection catalog .system sec).notices ∧
        Clean (draftSection catalog .user sec).notices ↔
      (sec.isIncluded = true → (catalog.settings? sec.feature).isSome = true) ∧
        ∀ settings, sec.active? catalog = some settings →
          (∀ c ∈ sec.items, (settingNamed? settings c.id).isSome = true) ∧
            ∀ p ∈ sec.kept settings, p.1.kind = .selection → p.2.targets ≠ [] →
              p.2.Resolves p.1 := by
  cases hactive : sec.active? catalog with
  | none =>
    rw [draftSection_of_not_active h hactive, draftSection_of_not_active h' hactive]
    rw [ChoiceSection.active?] at hactive
    cases hincl : sec.isIncluded with
    | false => simp
    | true =>
      rw [hincl, if_pos rfl] at hactive
      simp [hactive, Clean, Notice.isLookup]
  | some settings =>
    obtain ⟨w, hw, heq⟩ := draftSection_of_active h hactive
    obtain ⟨w', hw', heq'⟩ := draftSection_of_active h' hactive
    rw [heq, heq', ChoiceSection.clean_drafts_iff hw hw']
    have hknown : sec.isIncluded = true → (catalog.settings? sec.feature).isSome = true := by
      rw [(ChoiceSection.active?_eq_some_iff.mp hactive).2]
      exact fun _ => rfl
    refine ⟨fun hfound => ⟨hknown, fun settings' h => ?_⟩, fun hfound => hfound.2 settings rfl⟩
    cases h
    exact hfound

end Groups

namespace Assembler

variable {a : Assembler} {config : Configuration} {snapshot : Snapshot}

/-- **An assembly is clean exactly if everything is found** that the configuration names. -/
theorem clean_iff_found {script : String}
    (h : (a.assemble config snapshot).outcome = .ok script) :
    Clean (a.assemble config snapshot).notices ↔ Found a.catalog config := by
  obtain ⟨system, user, hsystem, huser, -, hnotices⟩ := assemble_of_ok h
  obtain ⟨⟨n, hn⟩, -, -, hsystem⟩ := systemPhase_of_ok hsystem
  obtain ⟨⟨m, hm⟩, -, huser⟩ := userPhase_of_ok huser
  have hpower : Clean (a.powerValues snapshot).notices := fun n hn => by
    have hkind := a.powerValues_reports snapshot n hn
    cases n <;> first | rfl | cases hkind
  have hsections : Clean (draftGroups a.catalog .system config.groups).notices ∧
        Clean (draftGroups a.catalog .user config.groups).notices ↔
      ∀ sec ∈ config.sections,
        Clean (draftSection a.catalog .system sec).notices ∧
          Clean (draftSection a.catalog .user sec).notices := by
    rw [clean_draftGroups_iff hn, clean_draftGroups_iff hm]
    exact ⟨fun hclean sec hsec => ⟨hclean.1 sec hsec, hclean.2 sec hsec⟩,
      fun hclean => ⟨fun sec hsec => (hclean sec hsec).1, fun sec hsec => (hclean sec hsec).2⟩⟩
  have hfound (sec : ChoiceSection) (hsec : sec ∈ config.sections) :=
    (exists_draftSection_of_ok hn hsec).elim fun k hk =>
      (exists_draftSection_of_ok hm hsec).elim fun l hl => clean_draftSections_iff hk hl
  rw [hnotices, hsystem, huser, clean_append, clean_append, clean_append, and_assoc, hsections,
    clean_removalSection_iff, and_iff_left hpower]
  constructor
  · rintro ⟨happs, hclean⟩
    exact {
      features := fun sec hsec => ((hfound sec hsec).mp (hclean sec hsec)).1
      settings := fun sec hsec settings hs =>
        (((hfound sec hsec).mp (hclean sec hsec)).2 settings hs).1
      values := fun sec hsec settings hs =>
        (((hfound sec hsec).mp (hclean sec hsec)).2 settings hs).2
      apps := happs }
  · intro hall
    refine ⟨hall.apps, fun sec hsec => (hfound sec hsec).mpr ⟨hall.features sec hsec, ?_⟩⟩
    exact fun settings hs => ⟨hall.settings sec hsec settings hs, hall.values sec hsec settings hs⟩

end Assembler

end Provision
