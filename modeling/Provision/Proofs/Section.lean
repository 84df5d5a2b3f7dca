import Mathlib.Data.List.Forall2
import Provision.Assembly.Script

/-!
# What a drafted section holds

The drafting of a section is read back function by function: each statement takes the good end of
one function and says which blocks it wrote, in which order, and what it reported.

* `Setting.importsFor`, `Setting.powerBlocks`, `Assignment.Written`: what the blocks of a choice
  are.
* **`draftChoice_of_ok`**: the blocks of one choice.
* **`ChoiceSection.draft_of_ok`**: a section is left out or holds its title and all its blocks.
* **`ChoiceSection.entersPhase_of_not_appears`**: what is left out has nothing for the phase.
* **`draftGroups_of_ok`**: the blocks of all groups.
* **`Assembler.assemble_of_ok`**: the script holds the bodies of both phases.
-/

namespace Provision

/-! ## Registry commands -/

/-- The block brings a target to a value by the commands for them. -/
def Assignment.Written (description : String) (a : Assignment) (b : Block) : Prop :=
  ∃ commands, a.target.statements a.value description = .ok commands ∧
    b = .registry a.target a.value commands

theorem draftAssignment_of_ok {description : String} {a : Assignment} {u : Unit}
    (h : (draftAssignment description a).outcome = .ok u) :
    ∃ b, a.Written description b ∧
      draftAssignment description a = ⟨.ok (), [b], (a.target.anomaly? a.value).toList⟩ := by
  obtain ⟨_, hr, h, heq⟩ := Draft.exists_of_bind_ok h
  obtain ⟨commands, hc, -, heq'⟩ := Draft.exists_of_bind_ok h
  rw [Draft.lift_ok_iff] at hc
  refine ⟨.registry a.target a.value commands, ⟨commands, hc, rfl⟩, ?_⟩
  rw [draftAssignment, Draft.bind_eq, heq, Draft.bind_eq, heq', Draft.report_of_ok hr]
  simp

theorem each_draftAssignment_of_ok {description : String} {as : List Assignment} {u : Unit}
    (h : (Draft.each (draftAssignment description) as).outcome = .ok u) :
    List.Forall₂ (Assignment.Written description) as
      (Draft.each (draftAssignment description) as).items := by
  obtain ⟨hall, heq⟩ := Draft.each_of_ok h
  rw [heq]
  clear h heq
  induction as with
  | nil => exact .nil
  | cons a as ih =>
    obtain ⟨ha, has⟩ := List.forall_mem_cons.mp hall
    obtain ⟨b, hb, heq⟩ := draftAssignment_of_ok ha
    rw [List.flatMap_cons, heq]
    exact .cons hb (ih has)

/-! ## Power settings -/

/-- A choice is asked for power settings: one among values, in the system phase, for a setting that
drives any. -/
def asksPower (phase : Phase) (p : Choice × Setting) : Prop :=
  p.1.kind = .selection ∧ phase = .system ∧ p.2.power ≠ []

/-- The blocks for power commands: each command, and at the end that it is done. -/
def Setting.powerBlocks (s : Setting) (commands : List PowerStatement) : List Block :=
  if commands.isEmpty then [] else commands.map (Block.power s) ++ [.powerDone s.description]

theorem draftPower_of_ok {phase : Phase} {p : Choice × Setting} {u : Unit}
    (h : (draftPower phase p).outcome = .ok u) (hp : asksPower phase p) :
    ∃ commands, p.2.powerStatements ((p.2.chosenValues p.1).1.getD []) = .ok commands ∧
      draftPower phase p = ⟨.ok (), p.2.powerBlocks commands, (p.2.chosenValues p.1).2⟩ := by
  obtain ⟨hkind, hphase, hpower⟩ := hp
  have hc : (decide (p.1.kind = .selection) && decide (phase = .system) && !p.2.power.isEmpty) =
      true := by
    simp [hkind, hphase, hpower]
  rw [draftPower, if_pos hc] at h ⊢
  obtain ⟨values, hv, h, heq⟩ := Draft.exists_of_bind_ok h
  obtain ⟨rfl, hrep⟩ := Draft.reported_of_ok hv
  obtain ⟨commands, hcs, h, heq'⟩ := Draft.exists_of_bind_ok h
  rw [Draft.lift_ok_iff] at hcs
  refine ⟨commands, hcs, ?_⟩
  rw [Draft.bind_eq, heq, Draft.bind_eq, heq', hrep]
  cases hempty : commands.isEmpty <;> simp [Setting.powerBlocks, hempty]

theorem draftPower_of_not_asksPower {phase : Phase} {p : Choice × Setting}
    (hp : ¬asksPower phase p) : draftPower phase p = ⟨.ok (), [], []⟩ := by
  rw [draftPower, if_neg]
  · rfl
  · simpa [asksPower, and_assoc] using hp

/-! ## Registry files -/

/-- The text of a payload, unless it is empty or no text. -/
def Payload.textFor? (y : Payload) (on : Bool) : Option String :=
  match y.contentFor on with
  | .str s => if s = "" then none else some s
  | _ => none

/-- The registry files that a choice imports in a phase: the texts of a toggle that belong there. -/
def Setting.importsFor (s : Setting) (c : Choice) (phase : Phase) : List String :=
  if c.kind = .toggle then
    (s.payloads.filterMap fun y => y.textFor? c.isOn).filter fun t => RegistryFile.phaseOf t = phase
  else []

theorem Payload.contentPhase?_of_ok {y : Payload} {on : Bool} {r : Option (String × Phase)}
    (h : RegistryFile.contentPhase? (y.contentFor on) = .ok r) :
    r = (y.textFor? on).map fun t => (t, RegistryFile.phaseOf t) := by
  unfold Payload.textFor?
  cases hv : y.contentFor on <;> rw [hv] at h <;> simp only [RegistryFile.contentPhase?] at h
  case str s =>
    cases h
    by_cases hs : s = "" <;> simp [hs]
  all_goals
    split at h <;> cases h
    rfl

/-- Of contents that are set, only texts can be placed in a phase. -/
theorem Payload.textFor?_isSome {y : Payload} {on : Bool} {r : Option (String × Phase)}
    (h : RegistryFile.contentPhase? (y.contentFor on) = .ok r)
    (hy : (y.contentFor on).isTruthy = true) : (y.textFor? on).isSome = true := by
  unfold Payload.textFor?
  cases hv : y.contentFor on <;> rw [hv] at h hy <;>
    simp_all [RegistryFile.contentPhase?, Value.isTruthy]

theorem draftPayload_of_ok {phase : Phase} {p : Choice × Setting} {y : Payload} {u : Unit}
    (h : (draftPayload phase p y).outcome = .ok u) :
    (∃ r, RegistryFile.contentPhase? (y.contentFor p.1.isOn) = .ok r) ∧
      draftPayload phase p y = ⟨.ok (),
        ((y.textFor? p.1.isOn).toList.filter fun t => RegistryFile.phaseOf t = phase).map
          (.registryFile p.2 phase), []⟩ := by
  obtain ⟨r, hr, h, heq⟩ := Draft.exists_of_bind_ok h
  rw [Draft.lift_ok_iff] at hr
  refine ⟨⟨r, hr⟩, ?_⟩
  rw [draftPayload, Draft.bind_eq, heq, Payload.contentPhase?_of_ok hr]
  cases y.textFor? p.1.isOn with
  | none => simp
  | some t => by_cases ht : RegistryFile.phaseOf t = phase <;> simp [ht]

theorem draftPayloads_of_ok {phase : Phase} {p : Choice × Setting} {u : Unit}
    (h : (draftPayloads phase p).outcome = .ok u) :
    (p.1.kind = .toggle →
      ∀ y ∈ p.2.payloads, ∃ r, RegistryFile.contentPhase? (y.contentFor p.1.isOn) = .ok r) ∧
      draftPayloads phase p =
        ⟨.ok (), (p.2.importsFor p.1 phase).map (.registryFile p.2 phase), []⟩ := by
  unfold draftPayloads at h ⊢
  by_cases hk : p.1.kind = .toggle
  · rw [if_pos hk] at h ⊢
    obtain ⟨hall, heq⟩ := Draft.each_of_ok h
    refine ⟨fun _ y hy => (draftPayload_of_ok (hall y hy)).1, ?_⟩
    rw [heq, Setting.importsFor, if_pos hk, List.filterMap_eq_flatMap_toList, List.filter_flatMap,
      List.map_flatMap]
    congr 1
    · exact List.flatMap_congr fun y hy => by rw [(draftPayload_of_ok (hall y hy)).2]
    · rw [List.flatMap_eq_nil_iff]
      exact fun y hy => by rw [(draftPayload_of_ok (hall y hy)).2]
  · rw [if_neg hk, Setting.importsFor, if_neg hk]
    exact ⟨fun h' => absurd h' hk, rfl⟩

theorem exists_of_mem_draftPayloads {phase : Phase} {p : Choice × Setting} {b : Block}
    (h : b ∈ (draftPayloads phase p).items) :
    ∃ y ∈ p.2.payloads, ∃ content, y.contentFor p.1.isOn = .str content ∧
      b = .registryFile p.2 phase content := by
  unfold draftPayloads at h
  split at h
  swap
  · exact absurd h List.not_mem_nil
  obtain ⟨y, hy, hb⟩ := Draft.exists_of_mem_each h
  refine ⟨y, hy, ?_⟩
  cases hr : RegistryFile.contentPhase? (y.contentFor p.1.isOn) with
  | error m =>
    rw [draftPayload, hr] at hb
    exact absurd hb List.not_mem_nil
  | ok r =>
    have htext := Payload.contentPhase?_of_ok hr
    rw [draftPayload, hr, Draft.bind_eq, Draft.bind_of_ok rfl, htext] at hb
    unfold Payload.textFor? at hb
    cases hv : y.contentFor p.1.isOn with
    | str content =>
      refine ⟨content, rfl, ?_⟩
      by_cases hempty : content = ""
      · simp [hv, hempty] at hb
      by_cases howner : RegistryFile.phaseOf content = phase
      · simpa [hv, hempty, howner] using hb
      · simp [hv, hempty, howner] at hb
    | _ => simp [hv] at hb

/-! ## One choice -/

/-- The block that turns hibernation on or off, where a choice is for that. -/
def hibernationBlocks (phase : Phase) (p : Choice × Setting) : List Block :=
  if phase = .system && p.2.id = hibernationSetting then [.hibernation p.1.isOn] else []

theorem draftChoice_eq {phase : Phase} {p : Choice × Setting} {u : Unit}
    (h : (draftChoice phase p).outcome = .ok u) :
    let registry := Draft.each (draftAssignment p.2.description) (p.2.assignments p.1 phase).1
    registry.outcome = .ok () ∧ (draftPower phase p).outcome = .ok () ∧
      (draftPayloads phase p).outcome = .ok () ∧
      draftChoice phase p = ⟨.ok (),
        registry.items ++ ((draftPower phase p).items ++
          ((p.2.importsFor p.1 phase).map (.registryFile p.2 phase) ++ hibernationBlocks phase p)),
        (p.2.assignments p.1 phase).2 ++ (registry.notices ++ (draftPower phase p).notices)⟩ := by
  obtain ⟨_, ha, h, heq⟩ := Draft.exists_of_bind_ok h
  obtain ⟨rfl, hrep⟩ := Draft.reported_of_ok ha
  obtain ⟨_, hreg, h, heq₁⟩ := Draft.exists_of_bind_ok h
  obtain ⟨_, hpow, h, heq₂⟩ := Draft.exists_of_bind_ok h
  obtain ⟨_, himp, h, heq₃⟩ := Draft.exists_of_bind_ok h
  refine ⟨hreg, hpow, himp, ?_⟩
  rw [draftChoice, Draft.bind_eq, heq, hrep, Draft.bind_eq, heq₁, Draft.bind_eq, heq₂,
    Draft.bind_eq, heq₃, (draftPayloads_of_ok himp).2, hibernationBlocks]
  split <;> simp

/-- **The blocks of one choice**: its registry commands, its power settings, its registry files, and
the command for hibernation. -/
theorem draftChoice_of_ok {phase : Phase} {p : Choice × Setting} {u : Unit}
    (h : (draftChoice phase p).outcome = .ok u) :
    ∃ registry commands,
      List.Forall₂ (Assignment.Written p.2.description) (p.2.assignments p.1 phase).1 registry ∧
      (asksPower phase p →
        p.2.powerStatements ((p.2.chosenValues p.1).1.getD []) = .ok commands) ∧
      (¬asksPower phase p → commands = []) ∧
      (draftChoice phase p).items =
        registry ++ (p.2.powerBlocks commands ++
          ((p.2.importsFor p.1 phase).map (.registryFile p.2 phase) ++
            hibernationBlocks phase p)) := by
  obtain ⟨hreg, hpow, -, heq⟩ := draftChoice_eq h
  by_cases hp : asksPower phase p
  · obtain ⟨commands, hc, hd⟩ := draftPower_of_ok hpow hp
    refine ⟨_, commands, each_draftAssignment_of_ok hreg, fun _ => hc, fun hn => absurd hp hn, ?_⟩
    rw [heq, hd]
  · refine ⟨_, [], each_draftAssignment_of_ok hreg, fun hn => absurd hn hp, fun _ => rfl, ?_⟩
    rw [heq, draftPower_of_not_asksPower hp]
    rfl

/-! ## Which phases have entries -/

/-- The search through payloads ends at one that belongs to the phase, or goes on. -/
theorem payloadsEnter_cons_of_ok {on : Bool} {phase : Phase} {y : Payload} {ys : List Payload}
    {b : Bool} (h : payloadsEnter on phase (y :: ys) = .ok b) :
    (∃ r, RegistryFile.contentPhase? (y.contentFor on) = .ok r) ∧
      ((b = true ∧ ∃ t, y.textFor? on = some t ∧ RegistryFile.phaseOf t = phase) ∨
        payloadsEnter on phase ys = .ok b ∧
          ∀ t, y.textFor? on = some t → RegistryFile.phaseOf t ≠ phase) := by
  rw [payloadsEnter] at h
  cases hr : RegistryFile.contentPhase? (y.contentFor on) with
  | error m => simp [hr, bind, Except.bind] at h
  | ok r =>
    have hy := Payload.contentPhase?_of_ok hr
    refine ⟨⟨r, rfl⟩, ?_⟩
    cases ht : y.textFor? on with
    | none =>
      rw [ht] at hy
      simp only [hr, hy, Option.map_none, bind, Except.bind] at h
      exact .inr ⟨h, by simp⟩
    | some t =>
      rw [ht] at hy
      simp only [hr, hy, Option.map_some, bind, Except.bind] at h
      split at h
      · rename_i howner
        exact .inl ⟨(Except.ok.inj h).symm, t, rfl, howner⟩
      · rename_i howner
        exact .inr ⟨h, fun t' ht' => Option.some.inj ht' ▸ howner⟩

theorem payloadsEnter_false {on : Bool} {phase : Phase} {ys : List Payload}
    (h : payloadsEnter on phase ys = .ok false) :
    ∀ y ∈ ys, (∃ r, RegistryFile.contentPhase? (y.contentFor on) = .ok r) ∧
      ∀ t, y.textFor? on = some t → RegistryFile.phaseOf t ≠ phase := by
  induction ys with
  | nil => exact fun y hy => absurd hy List.not_mem_nil
  | cons y ys ih =>
    obtain ⟨hr, ⟨hb, -⟩ | ⟨hrest, howner⟩⟩ := payloadsEnter_cons_of_ok h
    · cases hb
    · exact List.forall_mem_cons.mpr ⟨⟨hr, howner⟩, ih hrest⟩

/-- A choice without an entry in a phase asks for nothing there. -/
theorem of_entersPhase_false {phase : Phase} {p : Choice × Setting}
    (h : entersPhase phase p = .ok false) :
    p.2.targetsFor phase = [] ∧ p.2.importsFor p.1 phase = [] ∧
      (phase = .system → p.2.tasks = [] ∧ p.2.id ≠ hibernationSetting) ∧
      ∀ y ∈ p.2.payloads, ∃ r, RegistryFile.contentPhase? (y.contentFor p.1.isOn) = .ok r := by
  unfold entersPhase at h
  split at h
  · cases h
  rename_i htargets
  split at h
  · cases h
  rename_i hsystem
  have hpayloads := payloadsEnter_false h
  refine ⟨by simpa using htargets, ?_, fun hs => by simpa [hs] using hsystem,
    fun y hy => (hpayloads y hy).1⟩
  rw [Setting.importsFor]
  split
  · rw [List.filter_eq_nil_iff]
    intro t ht
    obtain ⟨y, hy, hyt⟩ := List.mem_filterMap.mp ht
    simpa using (hpayloads y hy).2 t hyt
  · rfl

theorem anyEntersPhase_false_iff {phase : Phase} {ps : List (Choice × Setting)} :
    anyEntersPhase phase ps = .ok false ↔ ∀ p ∈ ps, entersPhase phase p = .ok false := by
  induction ps with
  | nil => simp [anyEntersPhase]
  | cons p ps ih =>
    rw [anyEntersPhase, List.forall_mem_cons, ← ih]
    cases entersPhase phase p with
    | error m => simp [bind, Except.bind]
    | ok b => cases b <;> simp [bind, Except.bind, pure, Except.pure]

theorem anyEntersPhase_of_true {phase : Phase} {ps : List (Choice × Setting)}
    (h : anyEntersPhase phase ps = .ok true) : ∃ p ∈ ps, entersPhase phase p = .ok true := by
  induction ps with
  | nil => simp [anyEntersPhase] at h
  | cons p ps ih =>
    rw [anyEntersPhase] at h
    cases hp : entersPhase phase p with
    | error m => simp [hp, bind, Except.bind] at h
    | ok b =>
      cases b with
      | true => exact ⟨p, List.mem_cons_self, hp⟩
      | false =>
        simp only [hp, bind, Except.bind, Bool.false_eq_true, if_false] at h
        obtain ⟨q, hq, hentry⟩ := ih h
        exact ⟨q, List.mem_cons_of_mem _ hq, hentry⟩

namespace ChoiceSection

variable {sec : ChoiceSection} {settings : List Setting} {phase : Phase}

theorem mem_defined_of_mem_kept {p : Choice × Setting} (h : p ∈ sec.kept settings) :
    p ∈ sec.defined settings := (List.mem_filter.mp h).1

theorem isWritable_of_mem_lookupNotices :
    ∀ n ∈ sec.lookupNotices settings, n.isWritable = true :=
  forall_mem_lookupNotices (fun _ => rfl) fun _ => rfl

/-- Whether a section is written: never without a choice to carry out, always with an entry in the
phase, and otherwise in the system phase if there is no entry in the other phase either. -/
theorem appears_of_ok {w : Bool} (h : sec.appears settings phase = .ok w) :
    (w = false ∧ sec.kept settings = []) ∨
      (w = true ∧ ∃ p ∈ sec.defined settings, entersPhase phase p = .ok true) ∨
      (∀ p ∈ sec.defined settings, entersPhase phase p = .ok false) ∧
        (w = true → phase = .system ∧
          ∀ p ∈ sec.defined settings, entersPhase phase.opposite p = .ok false) := by
  unfold appears at h
  split at h
  · rename_i hempty
    cases h
    exact .inl ⟨rfl, List.isEmpty_iff.mp hempty⟩
  cases hany : anyEntersPhase phase (sec.defined settings) with
  | error m => simp [hany, bind, Except.bind] at h
  | ok b =>
    simp only [hany, bind, Except.bind] at h
    cases b with
    | true =>
      cases h
      exact .inr (.inl ⟨rfl, anyEntersPhase_of_true hany⟩)
    | false =>
      refine .inr (.inr ⟨anyEntersPhase_false_iff.mp hany, fun hw => ?_⟩)
      rw [if_neg Bool.false_ne_true] at h
      split at h
      · cases h
        cases hw
      rename_i hphase
      cases hother : anyEntersPhase phase.opposite (sec.defined settings) with
      | error m => simp [hother] at h
      | ok b =>
        simp only [hother] at h
        cases h
        obtain rfl : b = false := by simpa using hw
        exact ⟨by cases phase <;> simp_all, anyEntersPhase_false_iff.mp hother⟩

/-- **What is left out has nothing for the phase.** -/
theorem entersPhase_of_not_appears (h : sec.appears settings phase = .ok false)
    {p : Choice × Setting} (hp : p ∈ sec.kept settings) : entersPhase phase p = .ok false := by
  obtain ⟨-, hempty⟩ | ⟨hw, -⟩ | ⟨hnone, -⟩ := appears_of_ok h
  · exact absurd (hempty ▸ hp) List.not_mem_nil
  · cases hw
  · exact hnone p (mem_defined_of_mem_kept hp)

/-! ## Sections -/

theorem draftBody_of_ok {u : Unit} (h : (sec.draftBody settings phase).outcome = .ok u) :
    (∀ p ∈ sec.kept settings, (draftChoice phase p).outcome = .ok ()) ∧
      sec.draftBody settings phase = ⟨.ok (),
        (sec.kept settings).flatMap (fun p => (draftChoice phase p).items) ++
          (taskBlocks phase (sec.kept settings) ++ sec.fixedBlocks phase),
        (sec.kept settings).flatMap fun p => (draftChoice phase p).notices⟩ := by
  obtain ⟨_, hall, -, heq⟩ := Draft.exists_of_bind_ok h
  obtain ⟨hall, heach⟩ := Draft.each_of_ok hall
  refine ⟨hall, ?_⟩
  rw [draftBody, Draft.bind_eq, heq, heach]
  simp

/-- A section that could be drafted is left out, or holds its title and its body. -/
theorem draft_eq_of_ok {label : Option String} {w : Bool}
    (h : (sec.draft settings phase label).outcome = .ok w) :
    sec.appears settings phase = .ok w ∧
      (w = false → sec.draft settings phase label = ⟨.ok false, [], sec.lookupNotices settings⟩) ∧
      (w = true →
        (sec.draftBody settings phase).outcome = .ok () ∧
        sec.draft settings phase label = ⟨.ok true,
          .title (sec.titleText label) :: (sec.draftBody settings phase).items,
          sec.lookupNotices settings ++ ((sec.draftBody settings phase).notices ++
            if (sec.draftBody settings phase).items.isEmpty then
              [Notice.sectionEmpty sec.feature phase]
            else [])⟩) := by
  obtain ⟨_, hrep, h, heq⟩ := Draft.exists_of_bind_ok h
  obtain ⟨b, happ, h, heq₁⟩ := Draft.exists_of_bind_ok h
  rw [Draft.lift_ok_iff] at happ
  cases b with
  | false =>
    obtain rfl : false = w := by simpa using h
    refine ⟨happ, fun _ => ?_, fun hw => absurd hw (by decide)⟩
    rw [draft, Draft.bind_eq, heq, Draft.bind_eq, heq₁, Draft.report_of_ok hrep]
    simp
  | true =>
    simp only [if_true] at h
    obtain ⟨_, -, h, heq₂⟩ := Draft.exists_of_bind_ok h
    obtain ⟨_, hbody, h, heq₃⟩ := Draft.exists_of_bind_ok h
    obtain ⟨_, hempty, h, heq₄⟩ := Draft.exists_of_bind_ok h
    obtain rfl : true = w := by simpa using h
    refine ⟨happ, fun hw => absurd hw (by decide), fun _ => ⟨hbody, ?_⟩⟩
    rw [draft, Draft.bind_eq, heq, Draft.bind_eq, heq₁, Draft.report_of_ok hrep]
    simp only [if_true]
    rw [Draft.bind_eq, heq₂, Draft.bind_eq, heq₃, Draft.bind_eq, heq₄, Draft.report_of_ok hempty]
    simp

/-- **A section that could be drafted** is left out, or holds its title and the blocks of all
choices that it carries out. -/
theorem draft_of_ok {label : Option String} {w : Bool}
    (h : (sec.draft settings phase label).outcome = .ok w) :
    sec.appears settings phase = .ok w ∧
      (w = false → sec.draft settings phase label = ⟨.ok false, [], sec.lookupNotices settings⟩) ∧
      (w = true →
        (∀ p ∈ sec.kept settings, (draftChoice phase p).outcome = .ok ()) ∧
        ∃ empty, (∀ n ∈ empty, n = Notice.sectionEmpty sec.feature phase) ∧
          sec.draft settings phase label = ⟨.ok true,
            .title (sec.titleText label) ::
              ((sec.kept settings).flatMap (fun p => (draftChoice phase p).items) ++
                (taskBlocks phase (sec.kept settings) ++ sec.fixedBlocks phase)),
            sec.lookupNotices settings ++
              ((sec.kept settings).flatMap (fun p => (draftChoice phase p).notices) ++
                empty)⟩) := by
  obtain ⟨happ, hout, hin⟩ := draft_eq_of_ok h
  refine ⟨happ, hout, fun hw => ?_⟩
  obtain ⟨hbody, heq⟩ := hin hw
  obtain ⟨hall, hitems⟩ := draftBody_of_ok hbody
  refine ⟨hall, _, fun n hn => ?_, by rw [heq, hitems]⟩
  split at hn
  · exact List.mem_singleton.mp hn
  · exact absurd hn List.not_mem_nil

/-- The settings of the feature, where the section is included and its feature is known. -/
def active? (sec : ChoiceSection) (catalog : Catalog) : Option (List Setting) :=
  if sec.isIncluded then catalog.settings? sec.feature else none

theorem active?_eq_some_iff {catalog : Catalog} :
    sec.active? catalog = some settings ↔
      sec.isIncluded = true ∧ catalog.settings? sec.feature = some settings := by
  simp [active?]

end ChoiceSection

/-! ## Groups -/

section Groups

variable {catalog : Catalog} {phase : Phase}

theorem draftSection_of_active {sec : ChoiceSection} {settings : List Setting} {n : Nat}
    (h : (draftSection catalog phase sec).outcome = .ok n)
    (hs : sec.active? catalog = some settings) :
    let d := sec.draft settings phase (some (catalog.displayName sec.feature))
    ∃ w, d.outcome = .ok w ∧
      draftSection catalog phase sec = ⟨.ok (if w then 1 else 0), d.items, d.notices⟩ := by
  obtain ⟨hincl, hs⟩ := ChoiceSection.active?_eq_some_iff.mp hs
  simp only [draftSection, hincl, hs, Bool.not_true, Bool.false_eq_true, if_false] at h ⊢
  obtain ⟨w, hw, h, heq⟩ := Draft.exists_of_bind_ok h
  refine ⟨w, hw, ?_⟩
  rw [Draft.bind_eq, heq]
  cases w <;> simpa using h.symm

theorem draftSection_of_not_active {sec : ChoiceSection} {n : Nat}
    (h : (draftSection catalog phase sec).outcome = .ok n) (hs : sec.active? catalog = none) :
    draftSection catalog phase sec =
      ⟨.ok 0, [], if sec.isIncluded then [.featureUnknown sec.feature] else []⟩ := by
  cases hincl : sec.isIncluded with
  | false => simp [draftSection, hincl]
  | true =>
    rw [ChoiceSection.active?, if_pos hincl] at hs
    simp only [draftSection, hincl, hs, Bool.not_true, Bool.false_eq_true, if_false] at h ⊢
    obtain ⟨_, hrep, -, -⟩ := Draft.exists_of_bind_ok h
    rw [Draft.bind_eq, Draft.bind_of_ok hrep, Draft.report_of_ok hrep]
    simp

theorem draftSections_of_ok {secs : List ChoiceSection} {n : Nat}
    (h : (draftSections catalog phase secs).outcome = .ok n) :
    (∀ sec ∈ secs, ∃ k, (draftSection catalog phase sec).outcome = .ok k) ∧
      draftSections catalog phase secs = ⟨.ok n,
        secs.flatMap fun sec => (draftSection catalog phase sec).items,
        secs.flatMap fun sec => (draftSection catalog phase sec).notices⟩ := by
  induction secs generalizing n with
  | nil =>
    obtain rfl : 0 = n := by simpa [draftSections] using h
    exact ⟨fun sec hsec => absurd hsec List.not_mem_nil, rfl⟩
  | cons sec secs ih =>
    obtain ⟨k, hsec, h, heq⟩ := Draft.exists_of_bind_ok h
    obtain ⟨m, hsecs, h, heq'⟩ := Draft.exists_of_bind_ok h
    obtain ⟨hall, hrest⟩ := ih hsecs
    refine ⟨List.forall_mem_cons.mpr ⟨⟨k, hsec⟩, hall⟩, ?_⟩
    rw [draftSections, Draft.bind_eq, heq, Draft.bind_eq, heq', hrest]
    simp

theorem ChoiceGroup.draft_of_ok {g : ChoiceGroup} {n : Nat}
    (h : (g.draft catalog phase).outcome = .ok n) :
    (draftSections catalog phase g.sections).outcome = .ok n ∧
      g.draft catalog phase = ⟨.ok n, (draftSections catalog phase g.sections).items,
        (draftSections catalog phase g.sections).notices ++ [.groupWritten g.name n phase]⟩ := by
  obtain ⟨k, hk, h, heq⟩ := Draft.exists_of_bind_ok h
  obtain ⟨_, hrep, h, heq'⟩ := Draft.exists_of_bind_ok h
  obtain rfl : k = n := by simpa using h
  refine ⟨hk, ?_⟩
  rw [ChoiceGroup.draft, Draft.bind_eq, heq, Draft.bind_eq, heq', Draft.report_of_ok hrep]
  simp

/-- **The blocks of all groups** are those of their sections in order, and all groups that have any
could be drafted. -/
theorem draftGroups_of_ok {gs : List ChoiceGroup} {n : Nat}
    (h : (draftGroups catalog phase gs).outcome = .ok n) :
    (∀ g ∈ gs, g.sections ≠ [] → ∃ k, (g.draft catalog phase).outcome = .ok k) ∧
      draftGroups catalog phase gs = ⟨.ok n,
        (gs.flatMap ChoiceGroup.sections).flatMap fun sec => (draftSection catalog phase sec).items,
        gs.flatMap fun g =>
          if g.sections.isEmpty then [] else (g.draft catalog phase).notices⟩ := by
  induction gs generalizing n with
  | nil =>
    obtain rfl : 0 = n := by simpa [draftGroups] using h
    exact ⟨fun g hg => absurd hg List.not_mem_nil, rfl⟩
  | cons g gs ih =>
    rw [List.forall_mem_cons]
    cases hempty : g.sections.isEmpty with
    | true =>
      have hnil := List.isEmpty_iff.mp hempty
      simp only [draftGroups, hempty, if_true] at h ⊢
      obtain ⟨k, hk, h, heq⟩ := Draft.exists_of_bind_ok h
      obtain ⟨m, hgs, h, heq'⟩ := Draft.exists_of_bind_ok h
      obtain ⟨hall, hrest⟩ := ih hgs
      refine ⟨⟨fun hne => absurd hnil hne, hall⟩, ?_⟩
      rw [Draft.bind_eq, heq, Draft.bind_eq, heq', hrest]
      simp [hnil]
    | false =>
      simp only [draftGroups, hempty, Bool.false_eq_true, if_false] at h ⊢
      obtain ⟨k, hg, h, heq⟩ := Draft.exists_of_bind_ok h
      obtain ⟨m, hgs, h, heq'⟩ := Draft.exists_of_bind_ok h
      obtain ⟨hall, hrest⟩ := ih hgs
      obtain ⟨hsecs, hdraft⟩ := ChoiceGroup.draft_of_ok hg
      have hne : g.sections ≠ [] := by simpa using hempty
      refine ⟨⟨fun _ => ⟨k, hg⟩, hall⟩, ?_⟩
      rw [Draft.bind_eq, heq, Draft.bind_eq, heq', hrest, hdraft, (draftSections_of_ok hsecs).2]
      simp [hne, hdraft, (draftSections_of_ok hsecs).2]

theorem exists_draftSection_of_ok {gs : List ChoiceGroup} {n : Nat}
    (h : (draftGroups catalog phase gs).outcome = .ok n) {sec : ChoiceSection}
    (hsec : sec ∈ gs.flatMap ChoiceGroup.sections) :
    ∃ k, (draftSection catalog phase sec).outcome = .ok k := by
  obtain ⟨g, hg, hsec⟩ := List.mem_flatMap.mp hsec
  obtain ⟨k, hk⟩ := (draftGroups_of_ok h).1 g hg (List.ne_nil_of_mem hsec)
  exact (draftSections_of_ok (ChoiceGroup.draft_of_ok hk).1).1 sec hsec

end Groups

/-! ## The two bodies -/

namespace Assembler

variable {a : Assembler} {config : Configuration} {snapshot : Snapshot}

theorem systemPhase_eq_of_ok {body : PhaseBody}
    (h : (a.systemPhase config snapshot).outcome = .ok body) :
    ∃ power? n, (a.powerValues snapshot).outcome = .ok () ∧
      PowerSection.steps? (plan? config) (a.powerValues snapshot).items = .ok power? ∧
      (draftGroups a.catalog .system config.groups).outcome = .ok n ∧
      a.systemPhase config snapshot = ⟨.ok body,
        ⟨n, 0, (a.powerValues snapshot).items.length, (removalSection config).1.isSome⟩,
        (removalSection config).2 ++ (a.powerValues snapshot).notices ++
          (draftGroups a.catalog .system config.groups).notices⟩ ∧
      body = ⟨Workspace.scriptsFolder ++ (removalSection config).1.getD [] ++ power?.getD [],
        (draftGroups a.catalog .system config.groups).items, a.systemEnd⟩ := by
  unfold systemPhase at h ⊢
  cases hvalues : (a.powerValues snapshot).outcome with
  | error e => simp [hvalues] at h
  | ok u =>
    simp only [hvalues] at h ⊢
    cases hpower : PowerSection.steps? (plan? config) (a.powerValues snapshot).items with
    | error m => simp [hpower] at h
    | ok power? =>
      simp only [hpower] at h ⊢
      cases hsections : (draftGroups a.catalog .system config.groups).outcome with
      | error e => simp [hsections] at h
      | ok n =>
        simp only [hsections, Except.ok.injEq] at h ⊢
        subst h
        exact ⟨power?, n, trivial, rfl, rfl, rfl, rfl⟩

theorem systemPhase_of_ok {body : PhaseBody}
    (h : (a.systemPhase config snapshot).outcome = .ok body) :
    (∃ n, (draftGroups a.catalog .system config.groups).outcome = .ok n) ∧
      body.blocks = (draftGroups a.catalog .system config.groups).items ∧
      (a.powerValues snapshot).outcome = .ok () ∧
      (a.systemPhase config snapshot).notices =
        (removalSection config).2 ++ (a.powerValues snapshot).notices ++
          (draftGroups a.catalog .system config.groups).notices := by
  obtain ⟨power?, n, hvalues, -, hn, heq, rfl⟩ := systemPhase_eq_of_ok h
  exact ⟨⟨n, hn⟩, rfl, hvalues, congrArg Assembly.notices heq⟩

theorem userPhase_eq_of_ok {body : PhaseBody} (h : (a.userPhase config).outcome = .ok body) :
    ∃ n, (draftGroups a.catalog .user config.groups).outcome = .ok n ∧
      a.userPhase config = ⟨.ok body, ⟨0, n, 0, false⟩,
        (draftGroups a.catalog .user config.groups).notices⟩ ∧
      body = ⟨[], (draftGroups a.catalog .user config.groups).items,
        Workspace.placeholder "USER SPECIFIC" ++ Logon.marker⟩ := by
  unfold userPhase at h ⊢
  cases hsections : (draftGroups a.catalog .user config.groups).outcome with
  | error e => simp [hsections] at h
  | ok n =>
    simp only [hsections, Except.ok.injEq] at h ⊢
    subst h
    exact ⟨n, rfl, rfl, rfl⟩

theorem userPhase_of_ok {body : PhaseBody} (h : (a.userPhase config).outcome = .ok body) :
    (∃ n, (draftGroups a.catalog .user config.groups).outcome = .ok n) ∧
      body.blocks = (draftGroups a.catalog .user config.groups).items ∧
      (a.userPhase config).notices = (draftGroups a.catalog .user config.groups).notices := by
  obtain ⟨n, hn, heq, rfl⟩ := userPhase_eq_of_ok h
  exact ⟨⟨n, hn⟩, rfl, congrArg Assembly.notices heq⟩

theorem assemble_eq_of_ok {script : String}
    (h : (a.assemble config snapshot).outcome = .ok script) :
    ∃ system user, (a.systemPhase config snapshot).outcome = .ok system ∧
      (a.userPhase config).outcome = .ok user ∧
      script = Step.render (a.documentSteps system user) ∧
      a.assemble config snapshot = ⟨.ok script,
        { (a.systemPhase config snapshot).tally with
          userSections := (a.userPhase config).tally.userSections },
        (a.systemPhase config snapshot).notices ++ (a.userPhase config).notices⟩ := by
  unfold assemble at h ⊢
  cases hsystem : (a.systemPhase config snapshot).outcome with
  | error e => simp [hsystem] at h
  | ok system =>
    simp only [hsystem] at h ⊢
    cases huser : (a.userPhase config).outcome with
    | error e => simp [huser] at h
    | ok user =>
      simp only [huser, Except.ok.injEq] at h ⊢
      subst h
      exact ⟨system, user, rfl, rfl, rfl, rfl⟩

/-- **A script that could be assembled** is made of the bodies of both phases. -/
theorem assemble_of_ok {script : String}
    (h : (a.assemble config snapshot).outcome = .ok script) :
    ∃ system user, (a.systemPhase config snapshot).outcome = .ok system ∧
      (a.userPhase config).outcome = .ok user ∧
      script = Step.render (a.documentSteps system user) ∧
      (a.assemble config snapshot).notices =
        (a.systemPhase config snapshot).notices ++ (a.userPhase config).notices := by
  obtain ⟨system, user, hsystem, huser, hscript, heq⟩ := assemble_eq_of_ok h
  exact ⟨system, user, hsystem, huser, hscript, congrArg Assembly.notices heq⟩

end Assembler

end Provision
