import Provision.Proofs.Delivery

/-!
# Where power values come from

Power values stand in the table of the power section and in the bodies of the phases. A setting is
gated if it depends on brightness, or on a battery where there is none.

* `Assembler.powered`: the settings of the power feature that are not gated.
* **`Assembler.powerValues_of_ok`**: the rows of the table are theirs, in order.
* `Configuration.GivesPower`: a choice makes its section give a power command for a setting.
* **`power_mem_draftGroups_iff`**: these are the power commands of the bodies, gated or not.
* **`Assembler.gates_hold_iff`**: the gates hold in a script exactly if no choice gives a power
  command for a gated setting.
-/

namespace Provision

/-- A setting whose power values a machine must not get: it depends on brightness, or on a battery
that the machine lacks. -/
def Setting.isGated (s : Setting) (hasBattery : Bool) : Bool :=
  s.needsBrightness || (s.needsBattery && !hasBattery)

/-! ## The rows of the table -/

/-- The row of a power setting, if both sides of its reading are known. -/
def Setting.powerRow? (s : Setting) (readings : Readings) (t : PowerTarget) : Option PowerValue :=
  match readings.get? (Text.lower t.setting) with
  | some r =>
    match r.ac.toInteger, r.dc.toInteger with
    | .ok ac, .ok dc => some ⟨t.subgroup, t.setting, ac, dc, s.description⟩
    | _, _ => none
  | none => none

/-- The rows of a setting. -/
def Setting.powerRows (s : Setting) (readings : Readings) : List PowerValue :=
  s.power.filterMap (s.powerRow? readings)

/-- The settings whose power values may stand in the table. -/
def Assembler.powered (a : Assembler) (hasBattery : Bool) : List Setting :=
  ((a.catalog.settings? Assembler.powerFeature).getD []).filter fun s =>
    s.id != powerPlanSetting && !s.isGated hasBattery

theorem Value.toInteger_of_isNull {v : Value} (h : v.isNull = true) :
    v.toInteger = .error .wrongKind := by
  cases v <;> first | rfl | cases h

theorem items_collectTarget {s : Setting} {readings : Readings} {t : PowerTarget} {u : Unit}
    (h : (collectTarget s readings t).outcome = .ok u) :
    (collectTarget s readings t).items = (s.powerRow? readings t).toList := by
  unfold collectTarget at h ⊢
  unfold Setting.powerRow?
  cases hr : readings.get? (Text.lower t.setting) with
  | none =>
    simp only [hr] at h
    rw [Draft.report_of_ok h]
    rfl
  | some r =>
    simp only [hr] at h ⊢
    split at h
    · rename_i hnull
      rw [if_pos hnull, Draft.report_of_ok h]
      rcases Bool.or_eq_true_iff.mp hnull with hac | hdc
      · rw [Value.toInteger_of_isNull hac]
        rfl
      · rw [Value.toInteger_of_isNull hdc]
        cases r.ac.toInteger <;> rfl
    · rename_i hnull
      obtain ⟨ac, hac, h, heq⟩ := Draft.exists_of_bind_ok h
      obtain ⟨dc, hdc, h, heq'⟩ := Draft.exists_of_bind_ok h
      rw [if_neg hnull, Draft.bind_eq, heq, Draft.bind_eq, heq']
      rw [Draft.lift_ok_iff] at hac hdc
      rw [hac, hdc]
      rfl

theorem items_collectSetting {s : Setting} {readings : Readings} {hasBattery : Bool} {u : Unit}
    (h : (collectSetting readings hasBattery s).outcome = .ok u) :
    (collectSetting readings hasBattery s).items =
      if s.id != powerPlanSetting && !s.isGated hasBattery then s.powerRows readings else [] := by
  unfold collectSetting at h ⊢
  unfold Setting.isGated
  split at h
  · rename_i hnone
    rw [if_pos hnone]
    rcases Bool.or_eq_true_iff.mp hnone with hplan | hpower
    · simp_all
    · have hrows : s.powerRows readings = [] := by
        rw [Setting.powerRows, List.isEmpty_iff.mp hpower, List.filterMap_nil]
      simp [hrows]
  rename_i hsome
  rw [if_neg hsome]
  split at h
  · rename_i hbrightness
    rw [if_pos hbrightness, Draft.report_of_ok h]
    simp [hbrightness]
  rename_i hbrightness
  rw [if_neg hbrightness]
  split at h
  · rename_i hbattery
    rw [if_pos hbattery, Draft.report_of_ok h]
    simp [hbattery]
  · rename_i hbattery
    have hplan : s.id ≠ powerPlanSetting := by
      rintro heq
      simp [heq] at hsome
    have hungated : (s.id != powerPlanSetting &&
        !(s.needsBrightness || (s.needsBattery && !hasBattery))) = true := by
      simp only [Bool.not_eq_true] at hbrightness hbattery
      simp [hplan, hbrightness, hbattery]
    obtain ⟨hall, heq⟩ := Draft.each_of_ok h
    rw [if_neg hbattery, heq, if_pos hungated, Setting.powerRows,
      List.filterMap_eq_flatMap_toList]
    exact List.flatMap_congr fun t ht => items_collectTarget (hall t ht)

theorem flatMap_filter_eq {α β : Type} (p : α → Bool) (f : α → List β) (xs : List α) :
    (xs.filter p).flatMap f = xs.flatMap fun x => if p x then f x else [] := by
  induction xs with
  | nil => rfl
  | cons x xs ih => cases h : p x <;> simp [h, ih]

theorem items_collectReadings {settings : List Setting} {readings : Readings} {hasBattery : Bool}
    {u : Unit} (h : (collectReadings settings readings hasBattery).outcome = .ok u) :
    (collectReadings settings readings hasBattery).items =
      (settings.filter fun s => s.id != powerPlanSetting && !s.isGated hasBattery).flatMap
        (·.powerRows readings.folded) := by
  obtain ⟨_, heach, hrep, heq⟩ := Draft.exists_of_bind_ok h
  obtain ⟨hall, hitems⟩ := Draft.each_of_ok heach
  rw [collectReadings, heq, Draft.report_of_ok hrep, hitems, flatMap_filter_eq]
  simp only [List.append_nil]
  exact List.flatMap_congr fun s hs => items_collectSetting (hall s hs)

namespace Assembler

variable {a : Assembler} {config : Configuration} {snapshot : Snapshot}

theorem before_of_ok {body : PhaseBody} (h : (a.systemPhase config snapshot).outcome = .ok body) :
    ∃ power?, PowerSection.steps? (plan? config) (a.powerValues snapshot).items = .ok power? ∧
      body.before =
        Workspace.scriptsFolder ++ (removalSection config).1.getD [] ++ power?.getD [] := by
  obtain ⟨power?, n, -, hpower, -, -, rfl⟩ := systemPhase_eq_of_ok h
  exact ⟨power?, hpower, rfl⟩

/-- **The rows of the table** are those of the settings that are not gated, in order. -/
theorem powerValues_of_ok {u : Unit} (h : (a.powerValues snapshot).outcome = .ok u) :
    (a.powerValues snapshot).items =
      (a.powered snapshot.hasBattery).flatMap (·.powerRows snapshot.readings.folded) := by
  unfold powerValues at h ⊢
  unfold powered
  cases hsettings : a.catalog.settings? powerFeature with
  | none => rfl
  | some settings =>
    simp only [hsettings] at h ⊢
    split at h
    · rename_i hempty
      rw [if_pos hempty, List.isEmpty_iff.mp hempty]
      rfl
    · rename_i hempty
      rw [if_neg hempty]
      exact items_collectReadings h

end Assembler

/-! ## The power commands of the bodies -/

/-- The choices of a section give a power command for a setting: one among values asks for it, and
one of the section has an entry in the system phase. Whether the setting is gated is not asked. -/
structure ChoiceSection.GivesPower (sec : ChoiceSection) (settings : List Setting) (s : Setting)
    (command : PowerStatement) : Prop where
  enters : ∃ q ∈ sec.defined settings, entersPhase .system q = .ok true
  chosen : ∃ c, (c, s) ∈ sec.kept settings ∧ c.kind = .selection ∧ ∃ commands,
    s.powerStatements ((s.chosenValues c).1.getD []) = .ok commands ∧ command ∈ commands

/-- A section of a configuration gives a power command for a setting. -/
def Configuration.GivesPower (config : Configuration) (catalog : Catalog) (s : Setting)
    (command : PowerStatement) : Prop :=
  ∃ sec ∈ config.sections, ∃ settings, sec.active? catalog = some settings ∧
    sec.GivesPower settings s command

theorem power_mem_draft_iff {sec : ChoiceSection} {settings : List Setting} {phase : Phase}
    {label : Option String} {w : Bool} (h : (sec.draft settings phase label).outcome = .ok w)
    {s : Setting} {command : PowerStatement} :
    Block.power s command ∈ (sec.draft settings phase label).items ↔
      phase = .system ∧ sec.GivesPower settings s command := by
  constructor
  · intro hmem
    obtain ⟨hw, ⟨c, s'⟩, hp, hok, hmem⟩ := (ChoiceSection.mem_draft_iff h rfl).mp hmem
    obtain ⟨rfl, ⟨hkind, rfl, hpower⟩, commands, hcommands, hcommand⟩ :=
      (power_mem_draftChoice_iff hok).mp hmem
    have happears := (ChoiceSection.draft_of_ok h).1
    rw [hw] at happears
    exact ⟨rfl, ChoiceSection.exists_entersPhase_of_appears happears
      (ChoiceSection.mem_defined_of_mem_kept hp)
      (ChoiceSection.targets_ne_nil_of_mem_kept hp hpower), c, hp, hkind, commands, hcommands,
      hcommand⟩
  · rintro ⟨rfl, ⟨q, hq, hentry⟩, c, hp, hkind, commands, hcommands, hcommand⟩
    exact ChoiceSection.power_of_kept h hp hkind hq hentry hcommands hcommand

/-- **The power commands of the bodies** are those that choices give, gated or not. -/
theorem power_mem_draftGroups_iff {catalog : Catalog} {config : Configuration} {phase : Phase}
    {n : Nat} (h : (draftGroups catalog phase config.groups).outcome = .ok n) {s : Setting}
    {command : PowerStatement} :
    Block.power s command ∈ (draftGroups catalog phase config.groups).items ↔
      phase = .system ∧ config.GivesPower catalog s command := by
  have hsection : ∀ sec ∈ config.sections,
      (Block.power s command ∈ (draftSection catalog phase sec).items ↔
        phase = .system ∧ ∃ settings, sec.active? catalog = some settings ∧
          sec.GivesPower settings s command) := by
    intro sec hsec
    obtain ⟨k, hk⟩ := exists_draftSection_of_ok h hsec
    cases hactive : sec.active? catalog with
    | none => simp [draftSection_of_not_active hk hactive]
    | some settings =>
      obtain ⟨w, hw, heq⟩ := draftSection_of_active hk hactive
      rw [heq, power_mem_draft_iff hw]
      simp
  rw [(draftGroups_of_ok h).2, List.mem_flatMap]
  constructor
  · rintro ⟨sec, hsec, hmem⟩
    obtain ⟨hphase, settings, hgives⟩ := (hsection sec hsec).mp hmem
    exact ⟨hphase, sec, hsec, settings, hgives⟩
  · rintro ⟨hphase, sec, hsec, settings, hgives⟩
    exact ⟨sec, hsec, (hsection sec hsec).mpr ⟨hphase, settings, hgives⟩⟩

/-! ## The whole script -/

/-- Blocks hold no power command for a setting that is gated. -/
def KeepGates (hasBattery : Bool) (blocks : List Block) : Prop :=
  ∀ s command, Block.power s command ∈ blocks → s.isGated hasBattery = false

namespace Assembler

variable {a : Assembler} {config : Configuration} {snapshot : Snapshot}

/-- **The gates hold exactly if no choice gives a power command for a gated setting.** The table of
a script has the rows of settings that are not gated and no others, the body of the user phase has
no power command, and that of the system phase has those that choices give. -/
theorem gates_hold_iff {script : String} (h : (a.assemble config snapshot).outcome = .ok script) :
    ∃ system user power?, (a.systemPhase config snapshot).outcome = .ok system ∧
      (a.userPhase config).outcome = .ok user ∧
      script = Step.render (a.documentSteps system user) ∧
      PowerSection.steps? (plan? config)
        ((a.powered snapshot.hasBattery).flatMap (·.powerRows snapshot.readings.folded)) =
          .ok power? ∧
      system.before =
        Workspace.scriptsFolder ++ (removalSection config).1.getD [] ++ power?.getD [] ∧
      (∀ s command, Block.power s command ∈ system.blocks ++ user.blocks ↔
        config.GivesPower a.catalog s command) ∧
      (KeepGates snapshot.hasBattery (system.blocks ++ user.blocks) ↔
        ∀ s command, config.GivesPower a.catalog s command →
          s.isGated snapshot.hasBattery = false) := by
  obtain ⟨system, user, hsystem, huser, hscript, -⟩ := assemble_of_ok h
  obtain ⟨⟨n, hn⟩, hblocks, hvalues, -⟩ := systemPhase_of_ok hsystem
  obtain ⟨⟨m, hm⟩, hblocks', -⟩ := userPhase_of_ok huser
  obtain ⟨power?, hpower, hbefore⟩ := before_of_ok hsystem
  have hmem : ∀ s command, Block.power s command ∈ system.blocks ++ user.blocks ↔
      config.GivesPower a.catalog s command := by
    intro s command
    rw [hblocks, hblocks', List.mem_append, power_mem_draftGroups_iff hn,
      power_mem_draftGroups_iff hm]
    simp
  refine ⟨system, user, power?, hsystem, huser, hscript, ?_, hbefore, hmem, ?_⟩
  · rw [← powerValues_of_ok hvalues, hpower]
  · exact forall₂_congr fun s command => imp_congr_left (hmem s command)

end Assembler

/-! ## A setting behind the gates -/

/-- The power setting of the backlight. -/
def backlightTarget : PowerTarget := ⟨"SUB_VIDEO", "ADAPTBRIGHT", .separate⟩

/-- A setting of the backlight: a target of the machine, a power setting, and one row of values. -/
def backlight (needsBattery needsBrightness : Bool) : Setting :=
  ⟨"backlight", "Backlight", .selection,
    [⟨"HKEY_LOCAL_MACHINE\\Software\\Backlight", some "Level", .dword, .null, .null, .plain⟩], [],
    [], [backlightTarget], [(1, [(.str "Level", .int 1), (.str powerIndexKey, .int 1)])],
    needsBattery, needsBrightness⟩

/-- The choice of the only row. -/
def backlightChoice : Choice := ⟨"backlight", .selection, .null, some 1, none, .null, .null⟩

/-- A configuration with this choice alone. -/
def backlightConfiguration : Configuration :=
  ⟨⟨"Optimize", [⟨"display", [backlightChoice], true⟩]⟩, ⟨"Customize", []⟩, []⟩

/-- An assembler whose catalogue has one setting. -/
def displayAssembler (s : Setting) : Assembler :=
  .ofCatalog ⟨[⟨.str "display", "Display", [s]⟩]⟩

theorem givesPower_backlight (needsBattery needsBrightness : Bool) :
    backlightConfiguration.GivesPower
      (displayAssembler (backlight needsBattery needsBrightness)).catalog
      (backlight needsBattery needsBrightness) ⟨.ac, backlightTarget, 1⟩ := by
  have hcommands : ∀ battery brightness : Bool, (backlight battery brightness).powerStatements
      (((backlight battery brightness).chosenValues backlightChoice).1.getD []) =
        .ok [⟨.ac, backlightTarget, 1⟩, ⟨.dc, backlightTarget, 1⟩] := by
    decide +kernel
  refine ⟨_, List.mem_cons_self, _, rfl, ⟨_, List.mem_cons_self, rfl⟩, backlightChoice,
    List.mem_cons_self, rfl, ?_⟩
  exact ⟨_, hcommands needsBattery needsBrightness, List.mem_cons_self⟩

theorem isOk_iff_exists {ε α : Type} {r : Except ε α} : r.isOk = true ↔ ∃ a, r = .ok a := by
  cases r <;> simp [Except.isOk, Except.toBool]

theorem exists_script_backlight (needsBattery needsBrightness hasBattery : Bool) :
    ∃ script, ((displayAssembler (backlight needsBattery needsBrightness)).assemble
      backlightConfiguration ⟨none, [], hasBattery⟩).outcome = .ok script := by
  have hok : ∀ needsBattery needsBrightness hasBattery : Bool,
      ((displayAssembler (backlight needsBattery needsBrightness)).assemble
        backlightConfiguration ⟨none, [], hasBattery⟩).outcome.isOk = true := by
    decide +kernel
  exact isOk_iff_exists.mp (hok needsBattery needsBrightness hasBattery)

/-- On a machine with a battery, the gate of the battery is open. -/
theorem gates_hold_iff_backlight :
    ∃ system user, ((displayAssembler (backlight true false)).systemPhase backlightConfiguration
        ⟨none, [], true⟩).outcome = .ok system ∧
      ((displayAssembler (backlight true false)).userPhase backlightConfiguration).outcome =
        .ok user ∧
      Block.power (backlight true false) ⟨.ac, backlightTarget, 1⟩ ∈ system.blocks ++ user.blocks ∧
      KeepGates true (system.blocks ++ user.blocks) := by
  obtain ⟨script, hok⟩ := exists_script_backlight true false true
  obtain ⟨system, user, -, hsystem, huser, -, -, -, hmem, hgates⟩ := Assembler.gates_hold_iff hok
  refine ⟨system, user, hsystem, huser, (hmem _ _).mpr (givesPower_backlight true false),
    hgates.mpr ?_⟩
  rintro s command ⟨sec, hsec, settings, hactive, -, c, hkept, -⟩
  obtain rfl := List.mem_singleton.mp hsec
  obtain rfl := Option.some.inj hactive
  obtain ⟨-, rfl⟩ := Prod.mk.inj (List.mem_singleton.mp hkept)
  rfl

/-- A script is assembled whose bodies hold a power command for a gated setting. -/
def Assembler.BreaksGates (a : Assembler) (config : Configuration) (snapshot : Snapshot) : Prop :=
  ∃ script system user, (a.assemble config snapshot).outcome = .ok script ∧
    (a.systemPhase config snapshot).outcome = .ok system ∧
    (a.userPhase config).outcome = .ok user ∧
    ¬KeepGates snapshot.hasBattery (system.blocks ++ user.blocks)

theorem breaksGates_of_isGated {battery brightness : Bool}
    (hgated : (backlight battery brightness).isGated false = true) :
    (displayAssembler (backlight battery brightness)).BreaksGates backlightConfiguration
      .empty := by
  obtain ⟨script, hok⟩ := exists_script_backlight battery brightness false
  obtain ⟨system, user, hsystem, huser, -, -⟩ := Assembler.assemble_of_ok hok
  obtain ⟨⟨n, hn⟩, hblocks, -, -⟩ := Assembler.systemPhase_of_ok hsystem
  refine ⟨script, system, user, hok, hsystem, huser, fun hkeep => ?_⟩
  have hmem := (power_mem_draftGroups_iff hn).mpr ⟨rfl, givesPower_backlight battery brightness⟩
  rw [← hblocks] at hmem
  have hungated := hkeep _ _ (List.mem_append_left _ hmem)
  exact Bool.false_ne_true (hungated.symm.trans hgated)

/-- **A gated setting gets its power command**, whether the gate is that of brightness or that of a
missing battery. -/
theorem not_keepGates_backlight :
    (displayAssembler (backlight false true)).BreaksGates backlightConfiguration .empty ∧
      (displayAssembler (backlight true false)).BreaksGates backlightConfiguration .empty :=
  ⟨breaksGates_of_isGated rfl, breaksGates_of_isGated rfl⟩

end Provision
