import Provision.Proofs.Partition

/-!
# What a choice asks for and what its section delivers

* `Delivers`: blocks of a phase hold the tasks, the command for hibernation, the power settings and
  the registry files that a choice asks for, and show the lines that carry them out.
* `Covered`: the condition on the choice and its neighbours under which they do.
* **`ChoiceSection.delivers_iff`**: a section delivers what a choice asks for exactly if the choice
  is covered there.

A setting with power settings and no registry target is passed over with all it asks for besides. A
choice among values whose targets all belong to the user loses its power settings unless another
choice has an entry in the system phase.
-/

namespace Provision

/-- Blocks of a phase hold what a choice asks for, and write the lines for it. -/
structure Delivers (phase : Phase) (c : Choice) (s : Setting) (blocks : List Block) : Prop where
  /-- Every scheduled task has a row in the system phase that enables or disables it. -/
  tasks : phase = .system → ∀ path ∈ s.tasks,
    let change : TaskChange :=
      ⟨path, if c.isOn = true then "/Enable" else "/Disable", s.description⟩
    (∃ changes, Block.tasks changes ∈ blocks ∧ change ∈ changes) ∧ ∃ comma ∈ ["", ","],
      Block.Shows blocks fun level => [Line.plain (level + 1) (TaskBatch.row change ++ comma)]
  /-- Hibernation is turned on or off in the system phase. -/
  hibernation : phase = .system → s.id = hibernationSetting → Block.hibernation c.isOn ∈ blocks ∧
    Block.Shows blocks fun level => [Line.plain level
      ("powercfg /hibernate " ++ (if c.isOn = true then "on" else "off") ++ " 2>$null")]
  /-- A choice among values sets power settings beside registry targets in the system phase. -/
  power : phase = .system → c.kind = .selection → s.targets ≠ [] → ∀ commands,
    s.powerStatements ((s.chosenValues c).1.getD []) = .ok commands →
      ∀ command ∈ commands, Block.power s command ∈ blocks ∧
        Block.Shows blocks fun level => [Line.plain level command.text]
  /-- What a toggle imports is a text, and stands in the phase that it belongs to. -/
  imports : c.kind = .toggle → ∀ y ∈ s.payloads, (y.contentFor c.isOn).isTruthy = true →
    ∃ t, y.textFor? c.isOn = some t ∧ (RegistryFile.phaseOf t = phase →
      Block.registryFile s phase t ∈ blocks ∧ Block.Shows blocks fun level =>
        Line.plain (level + 1) (RegistryFile.variableOf s.id ++ " = @'") ::
          RegistryFile.embeddedLines t)

/-- Nothing that a choice asks for in a phase is passed over. -/
structure Covered (phase : Phase) (sec : ChoiceSection) (settings : List Setting) (c : Choice)
    (s : Setting) : Prop where
  /-- The tasks of a setting for power alone are those of other choices too. -/
  tasks : phase = .system → s.isPowerOnly = true → ∀ change ∈ taskChanges (c, s),
    ∃ p ∈ sec.kept settings, change ∈ taskChanges p
  /-- The setting for hibernation is not for power alone. -/
  hibernation : phase = .system → s.id = hibernationSetting → s.isPowerOnly = false
  /-- A choice of the section has an entry in the system phase, where power settings are set. -/
  power : phase = .system → c.kind = .selection → s.targets ≠ [] → ∀ commands,
    s.powerStatements ((s.chosenValues c).1.getD []) = .ok commands → commands ≠ [] →
      ∃ p ∈ sec.defined settings, entersPhase .system p = .ok true
  /-- A setting for power alone imports nothing in the phase. -/
  imports : c.kind = .toggle → s.isPowerOnly = true → ∀ y ∈ s.payloads,
    (y.contentFor c.isOn).isTruthy = true →
      ∃ t, y.textFor? c.isOn = some t ∧ RegistryFile.phaseOf t ≠ phase

/-! ## Choices and their settings -/

theorem id_of_settingNamed? {settings : List Setting} {id : String} {s : Setting}
    (h : settingNamed? settings id = some s) : s.id = id := by
  simpa using List.find?_some h

namespace ChoiceSection

variable {sec : ChoiceSection} {settings : List Setting} {phase : Phase} {label : Option String}
  {w : Bool} {c : Choice} {s : Setting} {p : Choice × Setting}

theorem mem_defined_iff :
    p ∈ sec.defined settings ↔ p.1 ∈ sec.items ∧ p.1.id ≠ powerPlanSetting ∧
      settingNamed? settings p.1.id = some p.2 := by
  obtain ⟨c, s⟩ := p
  simp only [defined, List.mem_filterMap]
  constructor
  · rintro ⟨d, hd, h⟩
    split at h
    · cases h
    rename_i hid
    obtain ⟨t, ht, heq⟩ := Option.map_eq_some_iff.mp h
    cases heq
    exact ⟨hd, hid, ht⟩
  · rintro ⟨hc, hid, hs⟩
    exact ⟨c, hc, by rw [if_neg hid, hs]; rfl⟩

theorem mem_kept_iff : p ∈ sec.kept settings ↔ p ∈ sec.defined settings ∧ p.2.isPowerOnly = false :=
  by simp [kept]

theorem setting_id_ne (hp : p ∈ sec.kept settings) : p.2.id ≠ powerPlanSetting := by
  obtain ⟨-, hid, hs⟩ := mem_defined_iff.mp (mem_defined_of_mem_kept hp)
  rwa [id_of_settingNamed? hs]

theorem targets_ne_nil_of_mem_kept (hp : p ∈ sec.kept settings) (hpower : p.2.power ≠ []) :
    p.2.targets ≠ [] := by
  have honly := (mem_kept_iff.mp hp).2
  simpa [Setting.isPowerOnly, hpower] using honly

theorem setting_eq_of_mem_defined (hp : p ∈ sec.defined settings)
    (hs : settingNamed? settings c.id = some s) (hid : p.2.id = s.id) : p.2 = s := by
  obtain ⟨-, -, hp⟩ := mem_defined_iff.mp hp
  have hname : p.1.id = c.id := by
    rw [← id_of_settingNamed? hp, hid, id_of_settingNamed? hs]
  rw [hname, hs] at hp
  exact (Option.some.inj hp).symm

end ChoiceSection

/-! ## Which blocks a choice writes -/

section Choices

variable {phase : Phase} {p : Choice × Setting} {u : Unit}

theorem not_mem_registry_of_isOther {description : String} {as : List Assignment}
    {registry : List Block} (h : List.Forall₂ (Assignment.Written description) as registry)
    {b : Block} (hb : b.assignment? = none) : b ∉ registry := by
  intro hmem
  have hsome := List.of_mem_filter ((filterMap_of_written h).2.1.symm ▸ hmem)
  simp [hb] at hsome

theorem tasks_not_mem_draftChoice (h : (draftChoice phase p).outcome = .ok u)
    (changes : List TaskChange) : Block.tasks changes ∉ (draftChoice phase p).items := by
  obtain ⟨registry, commands, hwritten, -, -, hitems⟩ := draftChoice_of_ok h
  have hregistry := not_mem_registry_of_isOther hwritten (b := .tasks changes) rfl
  rw [hitems, Setting.powerBlocks, hibernationBlocks]
  split <;> split <;> simp [hregistry]

theorem hibernation_mem_draftChoice_iff (h : (draftChoice phase p).outcome = .ok u) {on : Bool} :
    Block.hibernation on ∈ (draftChoice phase p).items ↔
      phase = .system ∧ p.2.id = hibernationSetting ∧ on = p.1.isOn := by
  obtain ⟨registry, commands, hwritten, -, -, hitems⟩ := draftChoice_of_ok h
  have hregistry := not_mem_registry_of_isOther hwritten (b := .hibernation on) rfl
  rw [hitems, Setting.powerBlocks, hibernationBlocks]
  split <;> split <;> simp_all

theorem registryFile_mem_draftChoice_iff (h : (draftChoice phase p).outcome = .ok u) {s : Setting}
    {owner : Phase} {t : String} :
    Block.registryFile s owner t ∈ (draftChoice phase p).items ↔
      p.2 = s ∧ phase = owner ∧ t ∈ p.2.importsFor p.1 phase := by
  obtain ⟨registry, commands, hwritten, -, -, hitems⟩ := draftChoice_of_ok h
  have hregistry := not_mem_registry_of_isOther hwritten (b := .registryFile s owner t) rfl
  rw [hitems, Setting.powerBlocks, hibernationBlocks]
  split <;> split <;> simp [hregistry] <;> tauto

theorem power_mem_draftChoice_iff (h : (draftChoice phase p).outcome = .ok u) {s : Setting}
    {command : PowerStatement} :
    Block.power s command ∈ (draftChoice phase p).items ↔
      p.2 = s ∧ asksPower phase p ∧ ∃ commands,
        p.2.powerStatements ((p.2.chosenValues p.1).1.getD []) = .ok commands ∧
          command ∈ commands := by
  obtain ⟨registry, commands, hwritten, hasks, hnone, hitems⟩ := draftChoice_of_ok h
  have hregistry := not_mem_registry_of_isOther hwritten (b := .power s command) rfl
  have hblocks : Block.power s command ∈ p.2.powerBlocks commands ↔
      p.2 = s ∧ command ∈ commands := by
    rw [Setting.powerBlocks]
    split
    · simp_all
    · simp
      tauto
  have hmem : Block.power s command ∈ (draftChoice phase p).items ↔
      p.2 = s ∧ command ∈ commands := by
    rw [hitems, ← hblocks, hibernationBlocks]
    split <;> simp [hregistry]
  rw [hmem]
  by_cases hp : asksPower phase p
  · simp [hp, hasks hp]
  · simp [hp, hnone hp]

end Choices

/-! ## Which blocks a section writes -/

/-- The blocks that stand in a section for one choice of it. -/
def Block.isOfChoice : Block → Bool
  | registry .. | power .. | powerDone _ | registryFile .. | hibernation _ => true
  | title _ | tasks _ | wallpaper | hardening => false

namespace ChoiceSection

variable {sec : ChoiceSection} {settings : List Setting} {phase : Phase} {label : Option String}
  {w : Bool} {c : Choice} {s : Setting} {p : Choice × Setting}

theorem mem_draft_iff (h : (sec.draft settings phase label).outcome = .ok w) {b : Block}
    (hb : b.isOfChoice = true) :
    b ∈ (sec.draft settings phase label).items ↔
      w = true ∧ ∃ p ∈ sec.kept settings,
        (draftChoice phase p).outcome = .ok () ∧ b ∈ (draftChoice phase p).items := by
  obtain ⟨-, hout, hin⟩ := draft_of_ok h
  cases w with
  | false => simp [hout rfl]
  | true =>
    obtain ⟨hchoices, _, -, heq⟩ := hin rfl
    have hsome : (∃ p ∈ sec.kept settings,
        (draftChoice phase p).outcome = .ok () ∧ b ∈ (draftChoice phase p).items) ↔
        ∃ p ∈ sec.kept settings, b ∈ (draftChoice phase p).items :=
      exists_congr fun p => and_congr_right fun hp => and_iff_right (hchoices p hp)
    rw [heq, taskBlocks, fixedBlocks, hsome]
    -- a block of another kind stands for no choice
    have htitle : b ≠ .title (sec.titleText label) := by rintro rfl; cases hb
    have htasks : ∀ changes, b ≠ .tasks changes := by rintro _ rfl; cases hb
    have hwallpaper : b ≠ .wallpaper := by rintro rfl; cases hb
    have hhardening : b ≠ .hardening := by rintro rfl; cases hb
    split <;> split <;> split <;> simp_all

theorem tasks_not_mem_draftChoices {ps : List (Choice × Setting)}
    (h : ∀ p ∈ ps, (draftChoice phase p).outcome = .ok ()) (changes : List TaskChange) :
    Block.tasks changes ∉ ps.flatMap fun p => (draftChoice phase p).items := by
  rw [List.mem_flatMap]
  rintro ⟨p, hp, hmem⟩
  exact tasks_not_mem_draftChoice (h p hp) changes hmem

theorem tasks_not_mem_fixedBlocks (sec : ChoiceSection) (phase : Phase)
    (changes : List TaskChange) : Block.tasks changes ∉ sec.fixedBlocks phase := by
  rw [fixedBlocks]
  split <;> split <;> simp

theorem tasks_mem_draft_iff (h : (sec.draft settings phase label).outcome = .ok w)
    {changes : List TaskChange} :
    Block.tasks changes ∈ (sec.draft settings phase label).items ↔
      w = true ∧ phase = .system ∧ changes = (sec.kept settings).flatMap taskChanges ∧
        changes ≠ [] := by
  obtain ⟨-, hout, hin⟩ := draft_of_ok h
  cases w with
  | false => simp [hout rfl]
  | true =>
    obtain ⟨hchoices, _, -, heq⟩ := hin rfl
    rw [heq]
    simp only [List.mem_cons, List.mem_append, tasks_not_mem_draftChoices hchoices changes,
      tasks_not_mem_fixedBlocks sec phase changes, reduceCtorEq, false_or, or_false, true_and]
    rw [taskBlocks]
    split <;> simp_all

theorem written_of_entersPhase (h : (sec.draft settings phase label).outcome = .ok w)
    (hkept : sec.kept settings ≠ []) (hp : p ∈ sec.defined settings)
    (hentry : entersPhase phase p = .ok true) : w = true := by
  obtain ⟨-, hempty⟩ | ⟨hw, -⟩ | ⟨hnone, -⟩ := appears_of_ok (draft_of_ok h).1
  · exact absurd hempty hkept
  · exact hw
  · rw [hnone p hp] at hentry
    cases hentry

/-- A choice that is carried out and asks for something in a phase has its section written there. -/
theorem written_of_mem_kept (h : (sec.draft settings phase label).outcome = .ok w)
    (hp : p ∈ sec.kept settings) (hentry : entersPhase phase p ≠ .ok false) : w = true := by
  by_contra hw
  obtain rfl : w = false := by simpa using hw
  exact hentry (entersPhase_of_not_appears (draft_of_ok h).1 hp)

/-- A written section has an entry in its phase, if one of its choices has registry targets: they
would be entries of the other phase, and the section would be written there alone. -/
theorem exists_entersPhase_of_appears (h : sec.appears settings phase = .ok true)
    (hp : p ∈ sec.defined settings) (htargets : p.2.targets ≠ []) :
    ∃ q ∈ sec.defined settings, entersPhase phase q = .ok true := by
  obtain ⟨hw, -⟩ | ⟨-, hentry⟩ | ⟨hnone, hother⟩ := appears_of_ok h
  · cases hw
  · exact hentry
  · obtain ⟨rfl, hother⟩ := hother rfl
    obtain ⟨hsystem, -⟩ := of_entersPhase_false (hnone p hp)
    obtain ⟨huser, -⟩ := of_entersPhase_false (hother p hp)
    exact absurd (p.2.targets_nil_of_targetsFor_nil hsystem huser) htargets

theorem draftChoice_ok_of_mem_kept (h : (sec.draft settings phase label).outcome = .ok w)
    (hw : w = true) (hp : p ∈ sec.kept settings) : (draftChoice phase p).outcome = .ok () :=
  ((draft_of_ok h).2.2 hw).1 p hp

/-! ## The exact condition -/

theorem setting_ne_of_isPowerOnly (hp : p ∈ sec.kept settings) (hs : s.isPowerOnly = true) :
    p.2 ≠ s := by
  rintro rfl
  rw [(mem_kept_iff.mp hp).2] at hs
  cases hs

theorem covered_of_delivers (h : (sec.draft settings phase label).outcome = .ok w)
    (hc : (c, s) ∈ sec.defined settings)
    (hd : Delivers phase c s (sec.draft settings phase label).items) :
    Covered phase sec settings c s where
  tasks hphase _ change hchange := by
    obtain ⟨path, hpath, rfl⟩ := List.mem_map.mp hchange
    obtain ⟨⟨changes, hmem, hchange⟩, -⟩ := hd.tasks hphase path hpath
    obtain ⟨-, -, rfl, -⟩ := (tasks_mem_draft_iff h).mp hmem
    exact List.mem_flatMap.mp hchange
  hibernation hphase hid := by
    obtain ⟨-, p, hp, hok, hmem⟩ := (mem_draft_iff h rfl).mp (hd.hibernation hphase hid).1
    obtain ⟨-, hid', -⟩ := (hibernation_mem_draftChoice_iff hok).mp hmem
    have hsetting : p.2 = s := setting_eq_of_mem_defined (mem_defined_of_mem_kept hp)
      (mem_defined_iff.mp hc).2.2 (hid'.trans hid.symm)
    exact hsetting ▸ (mem_kept_iff.mp hp).2
  power hphase hkind htargets commands hcommands hne := by
    obtain ⟨command, hcommand⟩ := List.exists_mem_of_ne_nil commands hne
    obtain ⟨hw, -⟩ := (mem_draft_iff h rfl).mp
      (hd.power hphase hkind htargets commands hcommands command hcommand).1
    exact hphase ▸ exists_entersPhase_of_appears (hw ▸ (draft_of_ok h).1) hc htargets
  imports htoggle hpower y hy hset := by
    obtain ⟨t, ht, hmem⟩ := hd.imports htoggle y hy hset
    refine ⟨t, ht, fun hphase => ?_⟩
    obtain ⟨-, p, hp, hok, hmem⟩ := (mem_draft_iff h rfl).mp (hmem hphase).1
    obtain ⟨heq, -, -⟩ := (registryFile_mem_draftChoice_iff hok).mp hmem
    exact setting_ne_of_isPowerOnly hp hpower heq

theorem tasks_of_kept (h : (sec.draft settings .system label).outcome = .ok w)
    (hp : p ∈ sec.kept settings) {change : TaskChange} (hchange : change ∈ taskChanges p) :
    ∃ changes, Block.tasks changes ∈ (sec.draft settings .system label).items ∧
      change ∈ changes := by
  have hw : w = true := by
    refine written_of_mem_kept h hp fun hnone => ?_
    obtain ⟨-, -, htasks, -⟩ := of_entersPhase_false hnone
    rw [taskChanges, (htasks rfl).1] at hchange
    exact absurd hchange List.not_mem_nil
  have hmem : change ∈ (sec.kept settings).flatMap taskChanges :=
    List.mem_flatMap.mpr ⟨p, hp, hchange⟩
  exact ⟨_, (tasks_mem_draft_iff h).mpr ⟨hw, rfl, rfl, List.ne_nil_of_mem hmem⟩, hmem⟩

theorem hibernation_of_kept (h : (sec.draft settings .system label).outcome = .ok w)
    (hp : p ∈ sec.kept settings) (hid : p.2.id = hibernationSetting) :
    Block.hibernation p.1.isOn ∈ (sec.draft settings .system label).items := by
  have hw : w = true := by
    refine written_of_mem_kept h hp fun hnone => ?_
    obtain ⟨-, -, hsystem, -⟩ := of_entersPhase_false hnone
    exact (hsystem rfl).2 hid
  have hok := draftChoice_ok_of_mem_kept h hw hp
  exact (mem_draft_iff h rfl).mpr ⟨hw, p, hp, hok,
    (hibernation_mem_draftChoice_iff hok).mpr ⟨rfl, hid, rfl⟩⟩

/-- The power settings of a kept choice stand in the system phase once any choice has an entry
there. -/
theorem power_of_kept (h : (sec.draft settings .system label).outcome = .ok w)
    (hp : p ∈ sec.kept settings) (hkind : p.1.kind = .selection) {q : Choice × Setting}
    (hq : q ∈ sec.defined settings) (hentry : entersPhase .system q = .ok true)
    {commands : List PowerStatement}
    (hcommands : p.2.powerStatements ((p.2.chosenValues p.1).1.getD []) = .ok commands)
    {command : PowerStatement} (hcommand : command ∈ commands) :
    Block.power p.2 command ∈ (sec.draft settings .system label).items := by
  have hasks : asksPower .system p := by
    refine ⟨hkind, rfl, fun hpower => ?_⟩
    simp only [Setting.powerStatements, hpower, List.isEmpty_nil, if_true,
      Except.ok.injEq] at hcommands
    rw [← hcommands] at hcommand
    exact absurd hcommand List.not_mem_nil
  have hw : w = true := written_of_entersPhase h (List.ne_nil_of_mem hp) hq hentry
  have hok := draftChoice_ok_of_mem_kept h hw hp
  exact (mem_draft_iff h rfl).mpr ⟨hw, p, hp, hok,
    (power_mem_draftChoice_iff hok).mpr ⟨rfl, hasks, commands, hcommands, hcommand⟩⟩

theorem imports_of_kept (h : (sec.draft settings phase label).outcome = .ok w)
    (hp : p ∈ sec.kept settings) (htoggle : p.1.kind = .toggle) {y : Payload}
    (hy : y ∈ p.2.payloads) {t : String} (ht : y.textFor? p.1.isOn = some t)
    (hphase : RegistryFile.phaseOf t = phase) :
    Block.registryFile p.2 phase t ∈ (sec.draft settings phase label).items := by
  have himport : t ∈ p.2.importsFor p.1 phase := by
    rw [Setting.importsFor, if_pos htoggle]
    exact List.mem_filter.mpr ⟨List.mem_filterMap.mpr ⟨y, hy, ht⟩, by simpa using hphase⟩
  have hw : w = true := by
    refine written_of_mem_kept h hp fun hnone => ?_
    obtain ⟨-, himports, -, -⟩ := of_entersPhase_false hnone
    exact absurd (himports ▸ himport) List.not_mem_nil
  have hok := draftChoice_ok_of_mem_kept h hw hp
  exact (mem_draft_iff h rfl).mpr ⟨hw, p, hp, hok,
    (registryFile_mem_draftChoice_iff hok).mpr ⟨rfl, rfl, himport⟩⟩

theorem delivers_of_covered (h : (sec.draft settings phase label).outcome = .ok w)
    (hc : (c, s) ∈ sec.defined settings) (hcov : Covered phase sec settings c s) :
    Delivers phase c s (sec.draft settings phase label).items := by
  have hkept : s.isPowerOnly = false → (c, s) ∈ sec.kept settings :=
    fun hs => mem_kept_iff.mpr ⟨hc, hs⟩
  refine ⟨?_, ?_, ?_, ?_⟩
  · rintro rfl path hpath
    have hchange : (⟨path, TaskBatch.actionFor c.isOn, s.description⟩ : TaskChange) ∈
        taskChanges (c, s) := List.mem_map_of_mem hpath
    obtain ⟨p, hp, hchange⟩ : ∃ p ∈ sec.kept settings, _ ∈ taskChanges p := by
      cases hs : s.isPowerOnly with
      | true => exact hcov.tasks rfl hs _ hchange
      | false => exact ⟨(c, s), hkept hs, hchange⟩
    obtain ⟨changes, hmem, hchange⟩ := tasks_of_kept h hp hchange
    exact ⟨⟨changes, hmem, hchange⟩, Block.shows_row hmem hchange⟩
  · rintro rfl hid
    have hmem := hibernation_of_kept h (hkept (hcov.hibernation rfl hid)) hid
    exact ⟨hmem, Block.shows_hibernation hmem⟩
  · rintro rfl hkind htargets commands hcommands command hcommand
    obtain ⟨q, hq, hentry⟩ := hcov.power rfl hkind htargets commands hcommands
      (List.ne_nil_of_mem hcommand)
    have hp : (c, s) ∈ sec.kept settings := hkept (by simp [Setting.isPowerOnly, htargets])
    have hmem := power_of_kept h hp hkind hq hentry hcommands hcommand
    exact ⟨hmem, Block.shows_power hmem⟩
  · intro htoggle y hy hset
    cases hs : s.isPowerOnly with
    | true =>
      obtain ⟨t, ht, hne⟩ := hcov.imports htoggle hs y hy hset
      exact ⟨t, ht, fun hphase => absurd hphase hne⟩
    | false =>
      obtain ⟨t, ht⟩ := Option.isSome_iff_exists.mp
        (textFor?_isSome_of_draft_ok h (hkept hs) htoggle hy hset)
      refine ⟨t, ht, fun hphase => ?_⟩
      have hmem := imports_of_kept h (hkept hs) htoggle hy ht hphase
      exact ⟨hmem, Block.shows_registryFile hmem⟩

/-- **A section delivers what a choice asks for exactly if the choice is covered**: if its setting
for power alone asks for nothing else, and if its power settings find an entry of the system
phase. -/
theorem delivers_iff (h : (sec.draft settings phase label).outcome = .ok w)
    (hc : c ∈ sec.items) (hid : c.id ≠ powerPlanSetting)
    (hs : settingNamed? settings c.id = some s) :
    Delivers phase c s (sec.draft settings phase label).items ↔
      Covered phase sec settings c s := by
  have hdefined : (c, s) ∈ sec.defined settings := mem_defined_iff.mpr ⟨hc, hid, hs⟩
  exact ⟨covered_of_delivers h hdefined, delivers_of_covered h hdefined⟩

end ChoiceSection

/-! ## Choices that are and are not covered -/

/-- A setting with a scheduled task. -/
def telemetry : Setting :=
  ⟨"telemetry", "Telemetry", .toggle, [], ["\\Microsoft\\Report"], [], [], [], false, false⟩

/-- The choice that turns the setting with a task off. -/
def telemetryChoice : Choice := ⟨"telemetry", .toggle, .bool false, none, none, .null, .null⟩

theorem delivers_iff_telemetry :
    let sec : ChoiceSection := ⟨"privacy", [telemetryChoice], true⟩
    Delivers .system telemetryChoice telemetry (sec.draft [telemetry] .system none).items := by
  intro sec
  have hok : (sec.draft [telemetry] .system none).outcome = .ok true := rfl
  refine (ChoiceSection.delivers_iff hok List.mem_cons_self (by decide) rfl).mpr ?_
  exact ⟨fun _ hs => absurd hs (by decide), fun _ _ => rfl,
    fun _ hkind => absurd hkind (by decide), fun _ hs => absurd hs (by decide)⟩

/-- A setting with a target of the user and a power setting. -/
def dimming : Setting :=
  ⟨"dimming", "Dimming", .selection,
    [⟨"HKEY_CURRENT_USER\\Software\\Dim", some "Dim", .string, .null, .null, .plain⟩], [], [],
    [⟨"SUB_VIDEO", "ADAPTBRIGHT", .combined⟩],
    [(1, [(.str "Dim", .str "on"), (.str powerIndexKey, .int 1)])], false, false⟩

/-- The choice of the only row of its table. -/
def dimmingChoice : Choice := ⟨"dimming", .selection, .null, some 1, none, .null, .null⟩

/-- The setting with a task, which drives a power setting besides. -/
def poweredTelemetry : Setting := { telemetry with power := [⟨"SUB_NONE", "CONNECTED", .combined⟩] }

/-- Alone in its section, the first choice loses its power setting, and the second its task. -/
theorem not_delivers_alone :
    ¬Delivers .system dimmingChoice dimming
        ((⟨"display", [dimmingChoice], true⟩ : ChoiceSection).draft [dimming] .system none).items ∧
      ¬Delivers .system telemetryChoice poweredTelemetry
        ((⟨"privacy", [telemetryChoice], true⟩ : ChoiceSection).draft [poweredTelemetry] .system
          none).items := by
  have hcommands : dimming.powerStatements ((dimming.chosenValues dimmingChoice).1.getD []) =
      .ok [⟨.ac, ⟨"SUB_VIDEO", "ADAPTBRIGHT", .combined⟩, 1⟩] := by
    decide +kernel
  refine ⟨fun hd => ?_, fun hd => ?_⟩
  · obtain ⟨hmem, -⟩ := hd.power rfl rfl (by simp [dimming]) _ hcommands _ List.mem_cons_self
    exact absurd hmem List.not_mem_nil
  · obtain ⟨⟨_, hmem, -⟩, -⟩ := hd.tasks rfl _ List.mem_cons_self
    exact absurd hmem List.not_mem_nil

end Provision
