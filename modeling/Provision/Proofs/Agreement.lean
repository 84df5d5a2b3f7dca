import Provision.Inspection
import Provision.Proofs.Loading
import Provision.Proofs.Lookup

/-!
# The inspection and the assembly of a configuration

* `inspectFiles_of_loaded`: what the inspection of two documents that can be read ends with.
* `Inspected`: what an inspection without errors finds.
* `OverlookedFound`: what an inspection does not look up, or looks up elsewhere, is found as well.
* **`Assembler.clean_iff_of_valid`**: an assembly after an inspection without errors is clean
  exactly if what the inspection overlooks is found as well.
-/

namespace Provision

/-! ## After an inspection without errors -/

/-- What an inspection overlooks is found as well. -/
structure OverlookedFound (catalog : Catalog) (config : Configuration) : Prop where
  /-- The features of included sections without choices, of which it only warns. -/
  features : ∀ sec ∈ config.sections, sec.isIncluded = true → sec.items = [] →
    (catalog.settings? sec.feature).isSome = true
  /-- The setting of the power plan, which it never looks up. -/
  plan : ∀ sec ∈ config.sections, ∀ settings, sec.active? catalog = some settings →
    ∀ c ∈ sec.items, c.id = powerPlanSetting → (settingNamed? settings c.id).isSome = true
  /-- The values of a choice whose name several settings share, of which it looks at the first. -/
  values : ∀ sec ∈ config.sections, ∀ settings, sec.active? catalog = some settings →
    ∀ p ∈ sec.kept settings, catalog.find? sec.feature p.1.id ≠ some p.2 →
      p.1.kind = .selection → p.2.targets ≠ [] → p.2.Resolves p.1

/-- What an inspection without errors finds. -/
structure Inspected (catalog : Catalog) (config : Configuration) : Prop where
  features : ∀ sec ∈ config.sections, sec.isIncluded = true → sec.items ≠ [] →
    (catalog.settings? sec.feature).isSome = true
  settings : ∀ sec ∈ config.sections, ∀ settings, sec.active? catalog = some settings →
    ∀ c ∈ sec.items, c.id ≠ powerPlanSetting → ∃ s, catalog.find? sec.feature c.id = some s ∧
      (c.kind = .selection → s.Resolves c)
  apps : ∀ item ∈ config.removals, item.name = "" →
    item.id = RemovalPlan.edgeItem ∨ item.id = RemovalPlan.oneDriveItem

theorem settingNamed?_isSome_iff {settings : List Setting} {id : String} :
    (settingNamed? settings id).isSome = true ↔
      (settings.find? fun s => s.id == id).isSome = true := by
  simp [settingNamed?, List.find?_isSome]

namespace Inspection

/-- None of the findings is an error. -/
def Passes (findings : List Finding) : Prop := ∀ f ∈ findings, f.isError = false

theorem passes_ofRemovals_iff {position : Nat} {items : List RemovalItem} :
    Passes (ofRemovals position items) ↔ ∀ item ∈ items, item.name = "" →
      item.id = RemovalPlan.edgeItem ∨ item.id = RemovalPlan.oneDriveItem := by
  induction items generalizing position with
  | nil => simp [ofRemovals, Passes]
  | cons item items ih =>
    rw [ofRemovals, List.forall_mem_cons, ← @ih (position + 1), Passes,
      List.forall_mem_append]
    refine and_congr ?_ Iff.rfl
    split
    · simp_all [Finding.isError]
    · simp_all
      tauto

theorem passes_ofRow_iff {place : String} {s : Setting} {c : Choice} :
    Passes (ofRow place s c) ↔ (c.kind = .selection → s.Resolves c) := by
  rw [Setting.resolves_iff, ofRow]
  split
  · rename_i hskipped
    refine iff_of_true (fun f hf => absurd hf List.not_mem_nil) fun hkind => .inl ?_
    exact hskipped.resolve_left fun hne => hne hkind
  · rename_i hasked
    have hkind : c.kind = .selection := by
      by_contra hne
      exact hasked (.inl hne)
    have hcustom : ¬c.custom.isSome = true := fun hsome => hasked (.inr hsome)
    cases hindex : c.index with
    | none => simp_all [Passes, Finding.isError]
    | some index =>
      simp only
      split <;> simp_all [Passes, Finding.isError]

/-- An item passes if its setting is known and the values it asks for are found there; the item of
the power plan only has to bring a GUID. -/
theorem passes_ofItem_iff {catalog : Catalog} {feature place : String} {c : Choice} :
    Passes (ofItem catalog feature place c) ↔
      (c.id = powerPlanSetting → c.planGuid.isTruthy = true) ∧
        (c.id ≠ powerPlanSetting → ∃ s, catalog.find? feature c.id = some s ∧
          (c.kind = .selection → s.Resolves c)) := by
  rw [ofItem]
  split
  · rename_i hplan
    split <;> simp_all [Passes, Finding.isError]
  · rename_i hplan
    cases hs : catalog.find? feature c.id with
    | none => simp [hplan, Passes, Finding.isError]
    | some s =>
      have hidle : Passes (if s.hasTargets then [] else [.settingIdle place c.id]) := by
        split <;> simp [Passes, Finding.isError]
      simp only [hplan, ne_eq, not_false_eq_true, forall_const, false_implies, true_and,
        Option.some.injEq, exists_eq_left', ← @passes_ofRow_iff place]
      rw [Passes, List.forall_mem_append]
      exact and_iff_right hidle

/-- A section passes if it is left out, or has no items, or its feature is known and all its items
pass. -/
theorem passes_ofSection_iff {catalog : Catalog} {group : String} {sec : ChoiceSection} :
    Passes (ofSection catalog group sec) ↔
      (sec.isIncluded = true → sec.items ≠ [] →
        (catalog.settings? sec.feature).isSome = true ∧
          ∀ c ∈ sec.items, Passes (ofItem catalog sec.feature (placeOf group sec) c)) := by
  rw [ofSection]
  split
  · simp_all [Passes]
  split
  · simp_all [Passes, Finding.isError]
  split
  · simp_all [Passes, Finding.isError]
  · simp_all [Passes, Option.isSome_iff_ne_none]
    exact ⟨fun h c hc f hf => h f c hc hf, fun h f c hc hf => h c hc f hf⟩

theorem inspected_of_passes {catalog : Catalog} {config : Configuration}
    (h : Passes (ofDocuments catalog config)) : Inspected catalog config := by
  obtain ⟨hgroups, happs⟩ := List.forall_mem_append.mp h
  have hsection : ∀ sec ∈ config.sections, ∃ group, Passes (ofSection catalog group sec) := by
    intro sec hsec
    obtain ⟨g, hg, hsec⟩ := List.mem_flatMap.mp hsec
    exact ⟨g.name, fun f hf => hgroups f
      (List.mem_flatMap.mpr ⟨g, hg, List.mem_flatMap.mpr ⟨sec, hsec, hf⟩⟩)⟩
  refine ⟨fun sec hsec hincl hne => ?_, fun sec hsec settings hactive c hc hid => ?_,
    passes_ofRemovals_iff.mp happs⟩
  · obtain ⟨group, hpasses⟩ := hsection sec hsec
    exact (passes_ofSection_iff.mp hpasses hincl hne).1
  · obtain ⟨group, hpasses⟩ := hsection sec hsec
    obtain ⟨hincl, -⟩ := ChoiceSection.active?_eq_some_iff.mp hactive
    have hitem := (passes_ofSection_iff.mp hpasses hincl (List.ne_nil_of_mem hc)).2 c hc
    exact (passes_ofItem_iff.mp hitem).2 hid

end Inspection

/-- After an inspection without errors everything is found once what it overlooks is. -/
theorem found_iff_overlookedFound {catalog : Catalog} {config : Configuration}
    (h : Inspected catalog config) : Found catalog config ↔ OverlookedFound catalog config := by
  constructor
  · intro hfound
    exact {
      features := fun sec hsec hincl _ => hfound.features sec hsec hincl
      plan := fun sec hsec settings hs c hc _ => hfound.settings sec hsec settings hs c hc
      values := fun sec hsec settings hs p hp _ => hfound.values sec hsec settings hs p hp }
  · intro hover
    refine ⟨fun sec hsec hincl => ?_, fun sec hsec settings hs c hc => ?_,
      fun sec hsec settings hs p hp hkind htargets => ?_, h.apps⟩
    · by_cases hitems : sec.items = []
      · exact hover.features sec hsec hincl hitems
      · exact h.features sec hsec hincl hitems
    · by_cases hid : c.id = powerPlanSetting
      · exact hover.plan sec hsec settings hs c hc hid
      · obtain ⟨s, hfirst, -⟩ := h.settings sec hsec settings hs c hc hid
        obtain ⟨-, hsettings⟩ := ChoiceSection.active?_eq_some_iff.mp hs
        rw [Catalog.find?, hsettings] at hfirst
        rw [settingNamed?_isSome_iff, show settings.find? _ = _ from hfirst]
        rfl
    · by_cases hsame : catalog.find? sec.feature p.1.id = some p.2
      · obtain ⟨hitem, hid, -⟩ := ChoiceSection.mem_defined_iff.mp
          (ChoiceSection.mem_defined_of_mem_kept hp)
        obtain ⟨s, hfirst, hresolves⟩ := h.settings sec hsec settings hs p.1 hitem hid
        obtain rfl := Option.some.inj (hsame.symm.trans hfirst)
        exact hresolves hkind
      · exact hover.values sec hsec settings hs p hp hsame hkind htargets

/-! ## Inspecting files -/

namespace Inspection

variable {α β : Type} {m : Machine} {verbose : Bool}

theorem errors_eq_nil_iff {i : Inspection} : i.errors = [] ↔ Passes i.findings := by
  simp [errors, Passes, List.filter_eq_nil_iff]

/-- What is said to the user changes nothing about how the work ends. -/
theorem outcome_narrate_bind (lines : List String) (f : Unit → Action Machine α) :
    ((narrate verbose lines).bind f m).outcome = (f () m).outcome := by
  cases verbose <;> rfl

theorem outcome_conclude (i : Inspection) : (conclude verbose i m).outcome = .ok i :=
  outcome_narrate_bind _ _

theorem outcome_caught_bind {x : Action Machine α} {a : α} (h : (x m).outcome = .ok a)
    (hx : (x m).machine = m) (f : Except Problem α → Action Machine β) :
    ((caught x).bind f m).outcome = (f (.ok a) m).outcome := by
  have hcaught : caught x m = ⟨.ok (.ok a), m, (x m).journal⟩ := by
    simp [caught, Action.attempt, Action.bind, h, hx]
  rw [Action.bind_of_ok (congrArg Turn.outcome hcaught), hcaught]

end Inspection

open Inspection in
/-- **What an inspection of documents that can be read ends with**: all that there is about them, if
it can be written. -/
theorem inspectFiles_of_loaded {m : Machine} {p q : Path} {verbose : Bool} {catalog : Catalog}
    {config : Configuration} (hcatalog : (loadCatalog q m).outcome = .ok catalog)
    (hconfig : (loadConfiguration p m).outcome = .ok config) :
    (inspectFiles p q verbose m).outcome =
      if (ofDocuments catalog config).all Finding.isWritable then
        .ok ⟨ofDocuments catalog config, settingCount catalog config, p⟩
      else .error (.misfit .wrongContent) := by
  simp only [inspectFiles, Action.bind_eq]
  rw [outcome_narrate_bind, outcome_caught_bind hcatalog (machine_loadCatalog q m)]
  simp only
  rw [outcome_narrate_bind, outcome_caught_bind hconfig (machine_loadConfiguration p m)]
  simp only
  rw [outcome_narrate_bind]
  cases (ofDocuments catalog config).all Finding.isWritable with
  | false => rfl
  | true => exact (outcome_narrate_bind _ _).trans (outcome_conclude _)

theorem findings_of_inspectFiles {m : Machine} {p q : Path} {verbose : Bool} {catalog : Catalog}
    {config : Configuration} {i : Inspection} (hcatalog : (loadCatalog q m).outcome = .ok catalog)
    (hconfig : (loadConfiguration p m).outcome = .ok config)
    (h : (inspectFiles p q verbose m).outcome = .ok i) :
    i.findings = Inspection.ofDocuments catalog config := by
  rw [inspectFiles_of_loaded hcatalog hconfig] at h
  split at h
  · exact Except.ok.inj h ▸ rfl
  · cases h

/-- **An assembly after an inspection without errors is clean exactly if what the inspection
overlooks is found as well.** -/
theorem Assembler.clean_iff_of_valid {m : Machine} {p q : Path} {verbose : Bool} {a : Assembler}
    {config : Configuration} {i : Inspection} {snapshot : Snapshot} {script : String}
    (hcatalog : (loadCatalog q m).outcome = .ok a.catalog)
    (hconfig : (loadConfiguration p m).outcome = .ok config)
    (hinspect : (inspectFiles p q verbose m).outcome = .ok i) (hvalid : i.errors = [])
    (h : (a.assemble config snapshot).outcome = .ok script) :
    Clean (a.assemble config snapshot).notices ↔ OverlookedFound a.catalog config := by
  have hpasses := Inspection.errors_eq_nil_iff.mp hvalid
  rw [findings_of_inspectFiles hcatalog hconfig hinspect] at hpasses
  rw [clean_iff_found h]
  exact found_iff_overlookedFound (Inspection.inspected_of_passes hpasses)

/-! ## Documents that pass -/

/-- Where the catalogue lies. -/
def catalogFile : Path := ⟨"", ["catalog.yaml"]⟩

/-- Where the configuration lies. -/
def configFile : Path := ⟨"", ["config.yaml"]⟩

/-- A machine on which there is only a catalogue and a configuration, given by their lines. -/
def Machine.holding (catalog config : List String) : Machine where
  files := ⟨[(catalogFile.names, .file (catalog.flatMap fun l => Text.encodeUtf8 (l ++ "\n"))),
    (configFile.names, .file (config.flatMap fun l => Text.encodeUtf8 (l ++ "\n")))]⟩
  folder := []
  scratch := ""
  isWindows := false
  programs := []
  ending _ _ := .timedOut
  launches := []

/-- The documents on a machine can be read, an inspection finds no error in them, and a script is
assembled from them. -/
structure Passing (m : Machine) (catalog : Catalog) (config : Configuration) (i : Inspection)
    (script : String) : Prop where
  reads : (loadCatalog catalogFile m).outcome = .ok catalog
  chosen : (loadConfiguration configFile m).outcome = .ok config
  inspected : (inspectFiles configFile catalogFile false m).outcome = .ok i
  valid : i.errors = []
  assembled : ((Assembler.ofCatalog catalog).assemble config .empty).outcome = .ok script

/-- What the assembly of the documents on a machine reports if they pass. -/
def reportsIfPassing (m : Machine) : Option (List Notice) :=
  match (loadCatalog catalogFile m).outcome, (loadConfiguration configFile m).outcome with
  | .ok catalog, .ok config =>
    let d := (Assembler.ofCatalog catalog).assemble config .empty
    match d.outcome with
    | .ok _ =>
      if (Inspection.ofDocuments catalog config).all fun f => f.isWritable && !f.isError then
        some d.notices
      else none
    | .error _ => none
  | _, _ => none

theorem exists_passing {m : Machine} {notices : List Notice}
    (h : reportsIfPassing m = some notices) :
    ∃ catalog config i script, Passing m catalog config i script ∧
      ((Assembler.ofCatalog catalog).assemble config .empty).notices = notices := by
  rw [reportsIfPassing] at h
  split at h
  · rename_i catalog config hcatalog hconfig
    simp only at h
    split at h
    · rename_i script hscript
      split at h
      · rename_i hall
        have hall := List.all_eq_true.mp hall
        have hwritable : (Inspection.ofDocuments catalog config).all Finding.isWritable = true :=
          List.all_eq_true.mpr fun f hf => (Bool.and_eq_true_iff.mp (hall f hf)).1
        have hinspect : (inspectFiles configFile catalogFile false m).outcome = _ :=
          inspectFiles_of_loaded hcatalog hconfig
        rw [if_pos hwritable] at hinspect
        refine ⟨catalog, config, _, script, ⟨hcatalog, hconfig, hinspect, ?_, hscript⟩,
          Option.some.inj h⟩
        refine Inspection.errors_eq_nil_iff.mpr fun f hf => ?_
        simpa using (Bool.and_eq_true_iff.mp (hall f hf)).2
      · cases h
    · cases h
  · cases h

/-- What is overlooked in a section without choices is found in a catalogue that has its feature. -/
theorem clean_iff_of_valid_power :
    ∃ catalog config i script, Passing (.holding ["features:", " power:"]
      ["optimize:", " features:", "  power:"]) catalog config i script ∧
        OverlookedFound catalog config := by
  obtain ⟨notices, hnotices, hclean⟩ := (Option.any_eq_true _ _).mp
    (show (reportsIfPassing (.holding ["features:", " power:"]
      ["optimize:", " features:", "  power:"])).any (fun ns => ns.all fun n => !n.isLookup) = true
      by decide +kernel)
  obtain ⟨catalog, config, i, script, h, rfl⟩ := exists_passing hnotices
  refine ⟨catalog, config, i, script, h, (Assembler.clean_iff_of_valid h.reads h.chosen h.inspected
    h.valid h.assembled).mp fun n hn => ?_⟩
  simpa using List.all_eq_true.mp hclean n hn

/-- The documents on a machine pass, and what is assembled from them is not clean. -/
def Disagreement (m : Machine) : Prop :=
  ∃ catalog config i script, Passing m catalog config i script ∧
    ¬Clean ((Assembler.ofCatalog catalog).assemble config .empty).notices

theorem Disagreement.of_reports {m : Machine}
    (h : (reportsIfPassing m).any (fun ns => ns.any Notice.isLookup) = true) : Disagreement m := by
  obtain ⟨notices, hnotices, hlookup⟩ := (Option.any_eq_true _ _).mp h
  obtain ⟨catalog, config, i, script, hpassing, rfl⟩ := exists_passing hnotices
  obtain ⟨n, hn, hfound⟩ := List.any_eq_true.mp hlookup
  refine ⟨catalog, config, i, script, hpassing, fun hclean => ?_⟩
  rw [hclean n hn] at hfound
  cases hfound

/-- An inspection finds no error in a section without choices of an unknown feature, in a power plan
without its setting, and in a choice for one of two settings of which only the first has a row. -/
theorem not_clean_of_valid :
    Disagreement (.holding ["features:"] ["optimize:", " features:", "  power:"]) ∧
      Disagreement (.holding ["features:", " power:"]
        ["optimize:", " features:", "  power:", "   items:", "   - id: power-plan-selection",
          "     powerPlanGuid: a"]) ∧
      Disagreement (.holding
        ["features:", " view:", "  settings:", "  - id: mode", "    value_mappings:", "     1:",
          "  - id: mode", "    registry:", "    - key_path: HKLM", "      value_name: a"]
        ["optimize:", " features:", "  view:", "   items:", "   - id: mode",
          "     selectedIndex: 1"]) :=
  ⟨.of_reports (by decide +kernel), .of_reports (by decide +kernel),
    .of_reports (by decide +kernel)⟩

end Provision
