import Provision.Proofs.BlockLines
import Provision.Proofs.Section

/-!
# The two bodies share the choices between them

* `Configuration.kept`: the choices that are carried out, each with its setting, in order.
* `CarriesOut`: blocks of a phase that carry out choices: nothing less, nothing more, nothing twice.
* `ChoiceSection.carriesOut`: a section does so, whether it is written or left out.
* `PhaseBody.sectionLines`: the lines of the sections, which stand in their body in one piece.
* `WritesOut`: the registry commands and the verbatim lines among lines are those for choices.
* **`Assembler.assemble_partition`**: the bodies of both phases carry out their choices, and write
  them out.
-/

namespace Provision

/-- The sections of all groups, in order. -/
def Configuration.sections (config : Configuration) : List ChoiceSection :=
  config.groups.flatMap ChoiceGroup.sections

/-- The choices that are carried out: those that the included sections of known features keep. -/
def Configuration.kept (config : Configuration) (catalog : Catalog) : List (Choice × Setting) :=
  config.sections.flatMap fun sec =>
    match sec.active? catalog with
    | some settings => sec.kept settings
    | none => []

/-! ## What the blocks of a body do -/

namespace Block

/-- The registry target that a block brings to a value. -/
def assignment? : Block → Option Assignment
  | registry target value _ => some ⟨target, value⟩
  | _ => none

/-- The registry file that a block imports, with its setting and the phase it is imported for. -/
def imported? : Block → Option (Setting × Phase × String)
  | registryFile setting phase content => some (setting, phase, content)
  | _ => none

/-- A block that brings no registry target to a value and imports nothing. -/
def IsOther (b : Block) : Prop := b.assignment? = none ∧ b.imported? = none

end Block

/-- Blocks of a phase carry out choices. -/
structure CarriesOut (phase : Phase) (choices : List (Choice × Setting)) (blocks : List Block) :
    Prop where
  /-- The targets that get values are those of the choices, in order. -/
  assigned : blocks.filterMap Block.assignment? =
    choices.flatMap fun p => (p.2.assignments p.1 phase).1
  /-- They get them by the commands for them. -/
  commands : List.Forall₂ (fun (q : Setting × Assignment) b => q.2.Written q.1.description b)
    (choices.flatMap fun p => (p.2.assignments p.1 phase).1.map (p.2, ·))
    (blocks.filter fun b => b.assignment?.isSome)
  /-- The registry files imported are the texts of the choices that belong to the phase. -/
  imported : blocks.filterMap Block.imported? =
    choices.flatMap fun p => (p.2.importsFor p.1 phase).map fun t => (p.2, phase, t)
  /-- All targets belong to the phase. -/
  owned : ∀ a ∈ blocks.filterMap Block.assignment?, a.target.phase = phase

namespace Setting

variable {s : Setting} {c : Choice} {phase : Phase}

theorem assignments_of_targetsFor_nil (h : s.targetsFor phase = []) :
    s.assignments c phase = ([], []) := by
  rw [assignments]
  simp [h]

theorem assignments_of_selection (hid : s.id ≠ powerPlanSetting) (hkind : c.kind = .selection)
    (htargets : s.targetsFor phase ≠ []) :
    s.assignments c phase =
      match (s.chosenValues c).1 with
      | none => ([], (s.chosenValues c).2)
      | some values =>
        (assignFrom values (s.targetsFor phase), (s.chosenValues c).2 ++ s.unmatched values) := by
  have hempty : (s.targetsFor phase).isEmpty = false := by simpa using htargets
  cases hvalues : (s.chosenValues c).1 <;> simp [assignments, hkind, hid, hempty, hvalues]

theorem mem_targetsFor_of_mem_assignments {a : Assignment}
    (h : a ∈ (s.assignments c phase).1) : a.target ∈ s.targetsFor phase := by
  rw [assignments] at h
  split at h
  · exact absurd h List.not_mem_nil
  split at h
  · cases hvalues : (s.chosenValues c).1 with
    | none => simp [hvalues] at h
    | some values =>
      simp only [hvalues, assignFrom, List.mem_filterMap, Option.map_eq_some_iff] at h
      obtain ⟨t, ht, v, -, rfl⟩ := h
      exact ht
  · obtain ⟨t, ht, rfl⟩ := List.mem_map.mp h
    exact ht

theorem phase_of_mem_assignments {a : Assignment} (h : a ∈ (s.assignments c phase).1) :
    a.target.phase = phase := by
  simpa using (List.mem_filter.mp (mem_targetsFor_of_mem_assignments h)).2

/-- Every target belongs to exactly one phase. -/
theorem targetsFor_perm (s : Setting) :
    (s.targetsFor .system ++ s.targetsFor .user).Perm s.targets := by
  have huser : s.targetsFor .user = s.targets.filter fun t => !(t.phase == .system) :=
    List.filter_congr fun t _ => by cases t.phase <;> rfl
  rw [huser]
  exact List.filter_append_perm _ _

theorem targets_nil_of_targetsFor_nil (hsystem : s.targetsFor .system = [])
    (huser : s.targetsFor .user = []) : s.targets = [] := by
  have hperm := s.targetsFor_perm
  rw [hsystem, huser] at hperm
  exact hperm.symm.eq_nil

end Setting

namespace CarriesOut

variable {phase : Phase} {choices more : List (Choice × Setting)} {blocks rest : List Block}

theorem of_isOther (h : ∀ b ∈ blocks, b.IsOther) :
    CarriesOut phase [] blocks where
  assigned := List.filterMap_eq_nil_iff.mpr fun b hb => (h b hb).1
  commands := by
    rw [List.filter_eq_nil_iff.mpr fun b hb => by simp [(h b hb).1]]
    exact .nil
  imported := List.filterMap_eq_nil_iff.mpr fun b hb => (h b hb).2
  owned := by
    rw [List.filterMap_eq_nil_iff.mpr fun b hb => (h b hb).1]
    exact fun a ha => absurd ha List.not_mem_nil

theorem append (h : CarriesOut phase choices blocks) (h' : CarriesOut phase more rest) :
    CarriesOut phase (choices ++ more) (blocks ++ rest) where
  assigned := by rw [List.filterMap_append, List.flatMap_append, h.assigned, h'.assigned]
  commands := by
    rw [List.filter_append, List.flatMap_append]
    exact List.rel_append h.commands h'.commands
  imported := by rw [List.filterMap_append, List.flatMap_append, h.imported, h'.imported]
  owned := by
    rw [List.filterMap_append]
    exact List.forall_mem_append.mpr ⟨h.owned, h'.owned⟩

theorem flatMap {α : Type} {xs : List α} {f : α → List (Choice × Setting)} {g : α → List Block}
    (h : ∀ x ∈ xs, CarriesOut phase (f x) (g x)) :
    CarriesOut phase (xs.flatMap f) (xs.flatMap g) := by
  induction xs with
  | nil => exact of_isOther fun b hb => absurd hb List.not_mem_nil
  | cons x xs ih =>
    obtain ⟨hx, hxs⟩ := List.forall_mem_cons.mp h
    exact hx.append (ih hxs)

theorem insert {others : List Block} (h : CarriesOut phase choices (blocks ++ rest))
    (hothers : ∀ b ∈ others, b.IsOther) :
    CarriesOut phase choices (blocks ++ (others ++ rest)) := by
  have h₁ : others.filterMap Block.assignment? = [] :=
    List.filterMap_eq_nil_iff.mpr fun b hb => (hothers b hb).1
  have h₂ : (others.filter fun b => b.assignment?.isSome) = [] :=
    List.filter_eq_nil_iff.mpr fun b hb => by simp [(hothers b hb).1]
  have h₃ : others.filterMap Block.imported? = [] :=
    List.filterMap_eq_nil_iff.mpr fun b hb => (hothers b hb).2
  obtain ⟨assigned, commands, imported, owned⟩ := h
  refine ⟨?_, ?_, ?_, ?_⟩
  · simpa [h₁] using assigned
  · simpa [h₂] using commands
  · simpa [h₃] using imported
  · simpa [h₁] using owned

/-- A choice that has no entry in a phase needs no block there. -/
theorem of_not_entersPhase {p : Choice × Setting} (h : entersPhase phase p = .ok false) :
    CarriesOut phase [p] [] := by
  obtain ⟨htargets, himports, -, -⟩ := of_entersPhase_false h
  have hnone : (p.2.assignments p.1 phase).1 = [] := by
    rw [Setting.assignments_of_targetsFor_nil htargets]
  refine ⟨?_, ?_, ?_, fun a ha => absurd ha List.not_mem_nil⟩
  · simp [hnone]
  · simp [hnone]
  · simp [himports]

end CarriesOut

/-! ## From one choice to all groups -/

theorem Setting.powerBlocks_isOther (s : Setting) (commands : List PowerStatement) :
    ∀ b ∈ s.powerBlocks commands, b.IsOther := by
  intro b hb
  rw [powerBlocks] at hb
  split at hb
  · exact absurd hb List.not_mem_nil
  rcases List.mem_append.mp hb with hb | hb
  · obtain ⟨_, -, rfl⟩ := List.mem_map.mp hb
    exact ⟨rfl, rfl⟩
  · obtain rfl := List.mem_singleton.mp hb
    exact ⟨rfl, rfl⟩

theorem hibernationBlocks_isOther {phase : Phase} {p : Choice × Setting} :
    ∀ b ∈ hibernationBlocks phase p, b.IsOther := by
  intro b hb
  rw [hibernationBlocks] at hb
  split at hb
  · obtain rfl := List.mem_singleton.mp hb
    exact ⟨rfl, rfl⟩
  · exact absurd hb List.not_mem_nil

theorem filterMap_of_written {description : String} {as : List Assignment} {blocks : List Block}
    (h : List.Forall₂ (Assignment.Written description) as blocks) :
    blocks.filterMap Block.assignment? = as ∧
      (blocks.filter fun b => b.assignment?.isSome) = blocks ∧
      blocks.filterMap Block.imported? = [] := by
  induction h with
  | nil => exact ⟨rfl, rfl, rfl⟩
  | cons hb _ ih =>
    obtain ⟨_, -, rfl⟩ := hb
    obtain ⟨h₁, h₂, h₃⟩ := ih
    exact ⟨congrArg _ h₁, congrArg _ h₂, h₃⟩

theorem CarriesOut.single {phase : Phase} {p : Choice × Setting} {registry : List Block}
    (h : List.Forall₂ (Assignment.Written p.2.description) (p.2.assignments p.1 phase).1 registry) :
    CarriesOut phase [p]
      (registry ++ (p.2.importsFor p.1 phase).map (.registryFile p.2 phase)) := by
  obtain ⟨hassign, hfilter, himport⟩ := filterMap_of_written h
  have hfiles : ((p.2.importsFor p.1 phase).map (.registryFile p.2 phase)).filterMap
      Block.assignment? = [] := by
    simp [List.filterMap_eq_nil_iff, Block.assignment?]
  have hfilter' : (((p.2.importsFor p.1 phase).map (Block.registryFile p.2 phase)).filter
      fun b => b.assignment?.isSome) = [] := by
    simp [List.filter_eq_nil_iff, Block.assignment?]
  refine ⟨?_, ?_, ?_, ?_⟩
  · simp [hassign, hfiles]
  · simpa [hfilter, hfilter', List.forall₂_map_left_iff] using h
  · simp [himport, List.filterMap_map, Function.comp_def, Block.imported?]
  · simpa [hassign, hfiles] using fun a ha => Setting.phase_of_mem_assignments ha

theorem draftChoice_carriesOut {phase : Phase} {p : Choice × Setting} {u : Unit}
    (h : (draftChoice phase p).outcome = .ok u) :
    CarriesOut phase [p] (draftChoice phase p).items := by
  obtain ⟨registry, commands, hwritten, -, -, hitems⟩ := draftChoice_of_ok h
  have hcommands := (CarriesOut.single hwritten).insert (p.2.powerBlocks_isOther commands)
  rw [hitems]
  simpa using hcommands.append (.of_isOther hibernationBlocks_isOther)

namespace ChoiceSection

variable {sec : ChoiceSection} {settings : List Setting} {phase : Phase}

theorem taskBlocks_isOther {pairs : List (Choice × Setting)} :
    ∀ b ∈ taskBlocks phase pairs, b.IsOther := by
  intro b hb
  rw [taskBlocks] at hb
  split at hb
  · obtain rfl := List.mem_singleton.mp hb
    exact ⟨rfl, rfl⟩
  · exact absurd hb List.not_mem_nil

theorem fixedBlocks_isOther : ∀ b ∈ sec.fixedBlocks phase, b.IsOther := by
  intro b hb
  rw [fixedBlocks] at hb
  rcases List.mem_append.mp hb with hb | hb <;> split at hb
  · obtain rfl := List.mem_singleton.mp hb
    exact ⟨rfl, rfl⟩
  · exact absurd hb List.not_mem_nil
  · obtain rfl := List.mem_singleton.mp hb
    exact ⟨rfl, rfl⟩
  · exact absurd hb List.not_mem_nil

/-- **A section carries out what it keeps**, also where it is left out. -/
theorem carriesOut {label : Option String} {w : Bool}
    (h : (sec.draft settings phase label).outcome = .ok w) :
    CarriesOut phase (sec.kept settings) (sec.draft settings phase label).items := by
  obtain ⟨happears, hout, hin⟩ := draft_of_ok h
  cases w with
  | false =>
    rw [hout rfl]
    have hnone : CarriesOut phase ((sec.kept settings).flatMap fun p => [p])
        ((sec.kept settings).flatMap fun _ => []) :=
      .flatMap fun p hp => .of_not_entersPhase (entersPhase_of_not_appears happears hp)
    rwa [List.flatMap_singleton', List.flatMap_eq_nil_iff.mpr fun _ _ => rfl] at hnone
  | true =>
    obtain ⟨hchoices, _, -, heq⟩ := hin rfl
    rw [heq]
    have hbody : CarriesOut phase ((sec.kept settings).flatMap fun p => [p])
        ((sec.kept settings).flatMap fun p => (draftChoice phase p).items) :=
      .flatMap fun p hp => draftChoice_carriesOut (hchoices p hp)
    have hrest : ∀ b ∈ taskBlocks phase (sec.kept settings) ++ sec.fixedBlocks phase, b.IsOther :=
      List.forall_mem_append.mpr ⟨taskBlocks_isOther, fixedBlocks_isOther⟩
    have htitle : ∀ b ∈ [Block.title (sec.titleText label)], b.IsOther :=
      List.forall_mem_singleton.mpr ⟨rfl, rfl⟩
    simpa using (CarriesOut.of_isOther htitle).append (hbody.append (.of_isOther hrest))

theorem textFor?_isSome_of_draft_ok {label : Option String} {w : Bool}
    (h : (sec.draft settings phase label).outcome = .ok w) {p : Choice × Setting}
    (hp : p ∈ sec.kept settings) (htoggle : p.1.kind = .toggle) {y : Payload}
    (hy : y ∈ p.2.payloads) (hset : (y.contentFor p.1.isOn).isTruthy = true) :
    (y.textFor? p.1.isOn).isSome = true := by
  obtain ⟨happears, -, hin⟩ := draft_of_ok h
  have hok : ∃ r, RegistryFile.contentPhase? (y.contentFor p.1.isOn) = .ok r := by
    cases w with
    | false =>
      obtain ⟨-, -, -, hok⟩ := of_entersPhase_false (entersPhase_of_not_appears happears hp)
      exact hok y hy
    | true =>
      obtain ⟨-, -, himports, -⟩ := draftChoice_eq ((hin rfl).1 p hp)
      exact (draftPayloads_of_ok himports).1 htoggle y hy
  obtain ⟨r, hr⟩ := hok
  exact y.textFor?_isSome hr hset

end ChoiceSection

variable {a : Assembler} {config : Configuration} {snapshot : Snapshot}

theorem draftGroups_carriesOut {catalog : Catalog} {phase : Phase} {n : Nat}
    (h : (draftGroups catalog phase config.groups).outcome = .ok n) :
    CarriesOut phase (config.kept catalog) (draftGroups catalog phase config.groups).items := by
  rw [(draftGroups_of_ok h).2]
  refine .flatMap fun sec hsec => ?_
  obtain ⟨k, hk⟩ := exists_draftSection_of_ok h hsec
  cases hactive : sec.active? catalog with
  | none =>
    rw [draftSection_of_not_active hk hactive]
    exact .of_isOther fun b hb => absurd hb List.not_mem_nil
  | some settings =>
    obtain ⟨w, hw, heq⟩ := draftSection_of_active hk hactive
    rw [heq]
    exact ChoiceSection.carriesOut hw

/-- The sections that keep the choices of a configuration could all be drafted. -/
theorem Configuration.exists_draft_of_mem_kept {catalog : Catalog} {phase : Phase} {n : Nat}
    (h : (draftGroups catalog phase config.groups).outcome = .ok n) {p : Choice × Setting}
    (hp : p ∈ config.kept catalog) :
    ∃ (sec : ChoiceSection) (settings : List Setting) (label : Option String) (w : Bool),
      (sec.draft settings phase label).outcome = .ok w ∧ p ∈ sec.kept settings := by
  obtain ⟨sec, hsec, hp⟩ := List.mem_flatMap.mp hp
  obtain ⟨k, hk⟩ := exists_draftSection_of_ok h hsec
  cases hactive : sec.active? catalog with
  | none =>
    rw [hactive] at hp
    exact absurd hp List.not_mem_nil
  | some settings =>
    rw [hactive] at hp
    obtain ⟨w, hw, -⟩ := draftSection_of_active hk hactive
    exact ⟨sec, settings, _, w, hw, hp⟩

/-! ## The lines of the two bodies -/

/-- The level of the sections in the body of a phase. -/
def Phase.sectionLevel : Phase → Int
  | .system => 0
  | .user => 1

namespace PhaseBody

/-- The steps that make the body of a phase into a part of the script. -/
def phaseSteps (b : PhaseBody) : Phase → List Step
  | .system => Assembler.systemSteps b
  | .user => Assembler.userSteps b

/-- The lines of the sections in the body of a phase. -/
def sectionLines (b : PhaseBody) (phase : Phase) : List Line :=
  Block.allLines phase.sectionLevel b.blocks

theorem sectionLines_infix_steps (b : PhaseBody) (phase : Phase) :
    b.sectionLines phase <:+: Step.allLines phase.sectionLevel b.steps := by
  rw [steps, Step.allLines_append, Step.allLines_append]
  exact ⟨_, _, rfl⟩

theorem sectionLines_infix_phaseSteps (b : PhaseBody) (phase : Phase) :
    b.sectionLines phase <:+: Step.allLines 0 (b.phaseSteps phase) := by
  cases phase with
  | system => exact b.sectionLines_infix_steps .system
  | user =>
    have hinner : Step.indented 1 b.steps ∈ Assembler.userSteps b := by
      simp [Assembler.userSteps]
    exact (b.sectionLines_infix_steps .user).trans (Step.allLines_infix_of_indented 0 hinner)

end PhaseBody

/-- Lines of a phase write out choices. -/
structure WritesOut (phase : Phase) (choices : List (Choice × Setting)) (lines : List Line) :
    Prop where
  /-- The registry commands among them bring the targets of the choices to their values, in
  order. -/
  commands : ∃ commands : List (List Statement),
    List.Forall₂ (fun (q : Setting × Assignment) cs =>
        q.2.target.statements q.2.value q.1.description = .ok cs)
      (choices.flatMap fun p => (p.2.assignments p.1 phase).1.map (p.2, ·)) commands ∧
    lines.filter Line.callsRegistry =
      commands.flatten.map fun c => Line.plain phase.sectionLevel c.text
  /-- The verbatim lines are those of the registry files that the choices import. -/
  files : lines.filter Line.verbatim =
    (choices.flatMap fun p => p.2.importsFor p.1 phase).flatMap RegistryFile.embeddedLines

theorem exists_commands_of_written {as : List (Setting × Assignment)} {blocks : List Block}
    (h : List.Forall₂ (fun (q : Setting × Assignment) b => q.2.Written q.1.description b) as
      blocks) :
    ∃ commands : List (List Statement),
      List.Forall₂ (fun (q : Setting × Assignment) cs =>
        q.2.target.statements q.2.value q.1.description = .ok cs) as commands ∧
      blocks.flatMap Block.commands = commands.flatten := by
  induction h with
  | nil => exact ⟨[], .nil, rfl⟩
  | cons hb _ ih =>
    obtain ⟨cs, hcs, rfl⟩ := hb
    obtain ⟨commands, hcommands, heq⟩ := ih
    refine ⟨cs :: commands, .cons hcs hcommands, ?_⟩
    rw [List.flatMap_cons, heq, List.flatten_cons]
    rfl

namespace Block

theorem flatMap_commands_filter (blocks : List Block) :
    (blocks.filter fun b => b.assignment?.isSome).flatMap commands = blocks.flatMap commands := by
  induction blocks with
  | nil => rfl
  | cons b bs ih =>
    rw [List.flatMap_cons, ← ih]
    cases b <;> rfl

theorem flatMap_embedded (blocks : List Block) :
    blocks.flatMap embedded = (blocks.filterMap imported?).map fun r => r.2.2 := by
  induction blocks with
  | nil => rfl
  | cons b bs ih =>
    rw [List.flatMap_cons, ih]
    cases b <;> rfl

end Block

theorem CarriesOut.writesOut {phase : Phase} {choices : List (Choice × Setting)}
    {blocks : List Block} (h : CarriesOut phase choices blocks) :
    WritesOut phase choices (Block.allLines phase.sectionLevel blocks) where
  commands := by
    obtain ⟨commands, hcommands, heq⟩ := exists_commands_of_written h.commands
    rw [Block.flatMap_commands_filter] at heq
    exact ⟨commands, hcommands, by rw [Block.filter_callsRegistry, heq]⟩
  files := by
    rw [Block.filter_verbatim, Block.flatMap_embedded, h.imported, List.map_flatMap]
    simp only [List.map_map, Function.comp_def, List.map_id']

/-- **The two bodies share the choices between them**: each carries out the choices of the
configuration for its phase and writes them out in one piece, and every content that a toggle
imports is a text, which belongs to one of the phases. -/
theorem Assembler.assemble_partition {script : String}
    (h : (a.assemble config snapshot).outcome = .ok script) :
    ∃ system user, (a.systemPhase config snapshot).outcome = .ok system ∧
      (a.userPhase config).outcome = .ok user ∧
      script = Step.render (a.documentSteps system user) ∧
      CarriesOut .system (config.kept a.catalog) system.blocks ∧
      CarriesOut .user (config.kept a.catalog) user.blocks ∧
      system.sectionLines .system <:+: Step.allLines 0 (systemSteps system) ∧
      user.sectionLines .user <:+: Step.allLines 0 (userSteps user) ∧
      WritesOut .system (config.kept a.catalog) (system.sectionLines .system) ∧
      WritesOut .user (config.kept a.catalog) (user.sectionLines .user) ∧
      ∀ p ∈ config.kept a.catalog, p.1.kind = .toggle → ∀ y ∈ p.2.payloads,
        (y.contentFor p.1.isOn).isTruthy = true → (y.textFor? p.1.isOn).isSome = true := by
  obtain ⟨system, user, hsystem, huser, hscript, -⟩ := assemble_of_ok h
  obtain ⟨⟨n, hn⟩, hblocks, -, -⟩ := systemPhase_of_ok hsystem
  obtain ⟨⟨m, hm⟩, hblocks', -⟩ := userPhase_of_ok huser
  have hcarries : CarriesOut .system (config.kept a.catalog) system.blocks := by
    rw [hblocks]
    exact draftGroups_carriesOut hn
  have hcarries' : CarriesOut .user (config.kept a.catalog) user.blocks := by
    rw [hblocks']
    exact draftGroups_carriesOut hm
  refine ⟨system, user, hsystem, huser, hscript, hcarries, hcarries',
    system.sectionLines_infix_phaseSteps .system, user.sectionLines_infix_phaseSteps .user,
    hcarries.writesOut, hcarries'.writesOut, fun p hp htoggle y hy hset => ?_⟩
  obtain ⟨sec, settings, _, w, hw, hkept⟩ := config.exists_draft_of_mem_kept hn hp
  exact ChoiceSection.textFor?_isSome_of_draft_ok hw hkept htoggle hy hset

/-! ## A toggle with a target in either phase -/

/-- A target that holds the word for on or off. -/
def darkTarget (hive : String) : Target :=
  ⟨hive ++ "\\Software\\Theme", some "Dark", .string, .str "on", .str "off", .plain⟩

/-- A setting with a target of the machine and one of the user. -/
def darkMode : Setting :=
  ⟨"dark-mode", "Dark mode", .toggle,
    [darkTarget "HKEY_LOCAL_MACHINE", darkTarget "HKEY_CURRENT_USER"], [], [], [], [], false, false⟩

/-- A configuration that turns the setting on. -/
def darkConfiguration : Configuration :=
  ⟨⟨"Optimize", []⟩,
    ⟨"Customize",
      [⟨"theme", [⟨"dark-mode", .toggle, .bool true, none, none, .null, .null⟩], true⟩]⟩, []⟩

theorem assemble_partition_darkMode :
    let a := Assembler.ofCatalog ⟨[⟨.str "theme", "Theme", [darkMode]⟩]⟩
    ∃ system user, (a.systemPhase darkConfiguration .empty).outcome = .ok system ∧
      (a.userPhase darkConfiguration).outcome = .ok user ∧
      system.blocks.filterMap Block.assignment? =
        [⟨darkTarget "HKEY_LOCAL_MACHINE", .str "on"⟩] ∧
      user.blocks.filterMap Block.assignment? = [⟨darkTarget "HKEY_CURRENT_USER", .str "on"⟩] := by
  intro a
  have hok : (a.assemble darkConfiguration .empty).outcome = .ok _ := rfl
  obtain ⟨system, user, hsystem, huser, -, hs, hu, -⟩ := Assembler.assemble_partition hok
  exact ⟨system, user, hsystem, huser, hs.assigned.trans rfl, hu.assigned.trans rfl⟩

end Provision
