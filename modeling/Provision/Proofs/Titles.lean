import Provision.Compilation.Basic
import Provision.Proofs.Compilable
import Provision.Proofs.Headers
import Provision.Proofs.Report
import Provision.Script.Buffer

/-!
# Titles of sections

A section is drafted once for each phase, and either draft may leave it out.

* `HasEntry`: a choice has registry targets, tasks, hibernation or a registry file for a phase.
* `ChoiceSection.exists_appears_iff`: a section with a choice to carry out is written in a phase.
* `Block.IsBelowTitle`: blocks that are no titles and write at least one line.
* `ChoiceSection.Titled`: what the two drafts of a section do about its header.
* **`ChoiceSection.titled_of_ok`**: they do it if both end well.
* `Draft.Counts`: a draft holds titles and ends with their number; **`counts_draftGroups`**: the
  sections of all groups are counted that way.
* `Compilation.CountsTitles`: the counters of a compilation count the headers among the lines of
  both bodies.
* **`titles_counted`**: both, for any section and any compilation.
-/

namespace Provision

/-! ## Entries -/

/-- A choice has an entry in a phase: a registry target, or in the system phase a scheduled task or
hibernation, or a registry file that belongs there. -/
def HasEntry (phase : Phase) (p : Choice × Setting) : Prop :=
  p.2.targetsFor phase ≠ [] ∨
    (phase = .system ∧ (p.2.tasks ≠ [] ∨ p.2.id = hibernationSetting)) ∨
    ∃ y ∈ p.2.payloads, ∃ t, y.textFor? p.1.isOn = some t ∧ RegistryFile.phaseOf t = phase

theorem payloadsEnter_true {on : Bool} {phase : Phase} {ys : List Payload}
    (h : payloadsEnter on phase ys = .ok true) :
    ∃ y ∈ ys, ∃ t, y.textFor? on = some t ∧ RegistryFile.phaseOf t = phase := by
  induction ys with
  | nil => cases h
  | cons y ys ih =>
    obtain ⟨-, ⟨-, hentry⟩ | ⟨hrest, -⟩⟩ := payloadsEnter_cons_of_ok h
    · exact ⟨y, List.mem_cons_self, hentry⟩
    · obtain ⟨z, hz, hentry⟩ := ih hrest
      exact ⟨z, List.mem_cons_of_mem y hz, hentry⟩

theorem hasEntry_of_entersPhase {phase : Phase} {p : Choice × Setting}
    (h : entersPhase phase p = .ok true) : HasEntry phase p := by
  unfold entersPhase at h
  split at h
  · rename_i htargets
    exact .inl (by simpa using htargets)
  split at h
  · rename_i hsystem
    rw [Bool.and_eq_true, decide_eq_true_iff, Bool.or_eq_true, decide_eq_true_iff] at hsystem
    exact .inr (.inl ⟨hsystem.1, hsystem.2.imp_left (by simp)⟩)
  · exact .inr (.inr (payloadsEnter_true h))

/-! ## Which phases have a section -/

namespace ChoiceSection

variable {sec : ChoiceSection} {settings : List Setting}

theorem appears_of_no_entry (hkept : sec.kept settings ≠ [])
    (h : ∀ phase, ∀ p ∈ sec.defined settings, entersPhase phase p = .ok false) :
    sec.appears settings .system = .ok true := by
  have hsystem := anyEntersPhase_false_iff.mpr (h .system)
  have huser := anyEntersPhase_false_iff.mpr (h .user)
  have hempty : (sec.kept settings).isEmpty = false := by simpa using hkept
  simp [appears, hempty, hsystem, huser, Phase.opposite, bind, Except.bind, pure, Except.pure]

/-- **A section is written in a phase exactly if it has a choice to carry out.** -/
theorem exists_appears_iff {w : Phase → Bool}
    (h : ∀ phase, sec.appears settings phase = .ok (w phase)) :
    (∃ phase, w phase = true) ↔ sec.kept settings ≠ [] := by
  constructor
  · rintro ⟨phase, hw⟩ hnil
    have happears := h phase
    rw [appears_of_kept_nil hnil, hw] at happears
    cases happears
  · intro hkept
    by_contra hnone
    have hout : ∀ phase, w phase = false := by
      intro phase
      rw [Bool.eq_false_iff]
      exact fun hw => hnone ⟨phase, hw⟩
    -- What is left out in both phases has no entry in either, and then the system phase has it.
    have hentries : ∀ phase, ∀ p ∈ sec.defined settings, entersPhase phase p = .ok false := by
      intro phase
      obtain ⟨-, hnil⟩ | ⟨hw, -⟩ | ⟨hentries, -⟩ := appears_of_ok (h phase)
      · exact absurd hnil hkept
      · rw [hout phase] at hw
        cases hw
      · exact hentries
    have hsystem := h .system
    rw [appears_of_no_entry hkept hentries, hout] at hsystem
    cases hsystem

theorem exists_hasEntry_of_appears {w : Phase → Bool}
    (h : ∀ phase, sec.appears settings phase = .ok (w phase)) (hboth : ∀ phase, w phase = true)
    (phase : Phase) : ∃ p ∈ sec.defined settings, HasEntry phase p := by
  have huser : ∃ p ∈ sec.defined settings, entersPhase .user p = .ok true := by
    obtain ⟨hw, -⟩ | ⟨-, hentry⟩ | ⟨-, hsystem⟩ := appears_of_ok (h .user)
    · rw [hboth] at hw
      cases hw
    · exact hentry
    · cases (hsystem (hboth _)).1
  have hsystem : ∃ p ∈ sec.defined settings, entersPhase .system p = .ok true := by
    obtain ⟨hw, -⟩ | ⟨-, hentry⟩ | ⟨-, hother⟩ := appears_of_ok (h .system)
    · rw [hboth] at hw
      cases hw
    · exact hentry
    · obtain ⟨p, hp, hentry⟩ := huser
      have hnone := (hother (hboth _)).2 p hp
      rw [show Phase.opposite .system = .user from rfl, hentry] at hnone
      cases hnone
  cases phase with
  | system => exact hsystem.imp fun p => And.imp_right hasEntry_of_entersPhase
  | user => exact huser.imp fun p => And.imp_right hasEntry_of_entersPhase

end ChoiceSection

/-! ## What stands below a title -/

namespace Block

/-- A block that stands below a title: no title, and not without lines. -/
def IsBelowTitle (b : Block) : Prop := b.title? = none ∧ b.WritesLine

theorem titles_eq_nil {blocks : List Block} (h : ∀ b ∈ blocks, b.IsBelowTitle) :
    titles blocks = [] := List.filterMap_eq_nil_iff.mpr fun b hb => (h b hb).1

theorem forall_writesLine_title_cons {text : String} {body : List Block}
    (h : ∀ b ∈ body, b.IsBelowTitle) : ∀ b ∈ title text :: body, b.WritesLine :=
  List.forall_mem_cons.mpr ⟨trivial, fun b hb => (h b hb).2⟩

theorem allLines_eq_nil_iff {blocks : List Block} (h : ∀ b ∈ blocks, b.WritesLine) (level : Int) :
    allLines level blocks = [] ↔ blocks = [] := by
  cases blocks with
  | nil => exact iff_of_true rfl rfl
  | cons b bs =>
    obtain ⟨l, ls, heq, -⟩ := (h b List.mem_cons_self).exists_first level
    rw [allLines_cons, heq]
    exact iff_of_false (List.cons_ne_nil _ _) (List.cons_ne_nil b bs)

end Block

theorem Target.statements_ne_nil {t : Target} {v : Value} {description : String}
    {commands : List Statement} (h : t.statements v description = .ok commands) :
    commands ≠ [] := by
  rintro rfl
  unfold statements statementsAt at h
  split at h
  · obtain ⟨-, -, hnil⟩ := Except.exists_of_bind_ok h
    cases hnil
  · obtain ⟨-, -, hnil⟩ := Except.exists_of_bind_ok h
    cases hnil
  · split at h
    · cases h
    split at h <;> cases h
  · split at h
    · cases h
    split at h
    · cases h
    · obtain ⟨literal, -, hnil⟩ := Except.exists_of_bind_ok h
      cases hnil

theorem isBelowTitle_of_written {description : String} {as : List Assignment} {blocks : List Block}
    (h : List.Forall₂ (Assignment.Written description) as blocks) :
    ∀ b ∈ blocks, b.IsBelowTitle := by
  induction h with
  | nil => simp
  | cons hb _ ih =>
    obtain ⟨commands, hcommands, rfl⟩ := hb
    exact List.forall_mem_cons.mpr ⟨⟨rfl, Target.statements_ne_nil hcommands⟩, ih⟩

theorem Setting.isBelowTitle_of_mem_powerBlocks {s : Setting} {commands : List PowerStatement} :
    ∀ b ∈ s.powerBlocks commands, b.IsBelowTitle := by
  unfold powerBlocks
  split
  · exact fun b hb => absurd hb List.not_mem_nil
  · exact List.forall_mem_append.mpr
      ⟨List.forall_mem_map.mpr fun _ _ => ⟨rfl, trivial⟩,
        List.forall_mem_singleton.mpr ⟨rfl, trivial⟩⟩

theorem isBelowTitle_of_mem_draftChoice {phase : Phase} {p : Choice × Setting} {u : Unit}
    (h : (draftChoice phase p).outcome = .ok u) :
    ∀ b ∈ (draftChoice phase p).items, b.IsBelowTitle := by
  obtain ⟨registry, commands, hwritten, -, -, hitems⟩ := draftChoice_of_ok h
  have hfiles : ∀ b ∈ (p.2.importsFor p.1 phase).map (Block.registryFile p.2 phase),
      b.IsBelowTitle := List.forall_mem_map.mpr fun _ _ => ⟨rfl, trivial⟩
  have hhibernation : ∀ b ∈ hibernationBlocks phase p, b.IsBelowTitle := by
    unfold hibernationBlocks
    split <;> simp [Block.IsBelowTitle, Block.title?, Block.WritesLine]
  rw [hitems]
  simp only [List.forall_mem_append]
  exact ⟨isBelowTitle_of_written hwritten, Setting.isBelowTitle_of_mem_powerBlocks, hfiles,
    hhibernation⟩

theorem ChoiceSection.isBelowTitle_of_mem_draftBody {sec : ChoiceSection} {settings : List Setting}
    {phase : Phase} {u : Unit} (h : (sec.draftBody settings phase).outcome = .ok u) :
    ∀ b ∈ (sec.draftBody settings phase).items, b.IsBelowTitle := by
  obtain ⟨hchoices, heq⟩ := draftBody_of_ok h
  have htasks : ∀ b ∈ taskBlocks phase (sec.kept settings), b.IsBelowTitle := by
    simp only [taskBlocks]
    split <;> simp [Block.IsBelowTitle, Block.title?, Block.WritesLine]
  have hfixed : ∀ b ∈ sec.fixedBlocks phase, b.IsBelowTitle := by
    unfold fixedBlocks
    split <;> split <;> simp [Block.IsBelowTitle, Block.title?, Block.WritesLine]
  rw [heq]
  simp only [List.forall_mem_append, List.forall_mem_flatMap]
  exact ⟨fun p hp => isBelowTitle_of_mem_draftChoice (hchoices p hp), htasks, hfixed⟩

/-! ## What the drafts of a section do about its title -/

/-- The notices that a section produced nothing. -/
def Notice.isSectionEmpty : Notice → Bool
  | sectionEmpty .. => true
  | _ => false

theorem Notice.OfChoice.isSectionEmpty_eq_false {n : Notice} (h : n.OfChoice) :
    n.isSectionEmpty = false := by
  cases n <;> first | rfl | cases h

namespace ChoiceSection

variable {sec : ChoiceSection} {settings : List Setting} {phase : Phase} {label : Option String}

theorem filter_lookupNotices :
    (sec.lookupNotices settings).filter Notice.isSectionEmpty = [] := by
  rw [List.filter_eq_nil_iff]
  exact forall_mem_lookupNotices (fun _ => Bool.false_ne_true) fun _ => Bool.false_ne_true

/-- What the two drafts of a section do about its header, where `w` tells the phases that it is
written in. -/
structure Titled (sec : ChoiceSection) (settings : List Setting) (label : Option String)
    (w : Phase → Bool) : Prop where
  /-- It is written in one of the phases exactly if it has a choice to carry out. -/
  written_iff : (∃ phase, w phase = true) ↔ sec.kept settings ≠ []
  /-- It is written in both only with an entry in each. -/
  entries : (∀ phase, w phase = true) → ∀ phase, ∃ p ∈ sec.defined settings, HasEntry phase p
  /-- Where it is written, its lines begin with its header. -/
  begins : ∀ phase, w phase = true → ∀ level, headerLines level (sec.titleText label) <+:
    Block.allLines level (sec.draft settings phase label).items
  /-- There they hold no other header, and elsewhere none. -/
  headed : ∀ phase level, headers (Block.allLines level (sec.draft settings phase label).items) =
    if w phase = true then [sec.titleText label] else []
  /-- Where it is left out, nothing is written. -/
  unchanged : ∀ phase, w phase = false →
    ∀ b : Buffer, b.runAll (Block.allSteps (sec.draft settings phase label).items) = b
  /-- Where it writes its header and no more, this is reported, and nowhere else. -/
  reported : ∀ phase level, (sec.draft settings phase label).notices.filter Notice.isSectionEmpty =
    if Block.allLines level (sec.draft settings phase label).items =
        headerLines level (sec.titleText label) then
      [.sectionEmpty sec.feature phase]
    else []

/-- What is written of a section is its title and blocks below it. -/
theorem exists_items_of_written (h : (sec.draft settings phase label).outcome = .ok true) :
    ∃ body, (∀ b ∈ body, b.IsBelowTitle) ∧
      (sec.draft settings phase label).items = .title (sec.titleText label) :: body ∧
      (sec.draft settings phase label).notices.filter Notice.isSectionEmpty =
        if body.isEmpty then [.sectionEmpty sec.feature phase] else [] := by
  obtain ⟨-, -, hin⟩ := draft_eq_of_ok h
  obtain ⟨hbody, heq⟩ := hin rfl
  have hchoices : (sec.draftBody settings phase).notices.filter Notice.isSectionEmpty = [] := by
    refine List.filter_eq_nil_iff.mpr fun n hn => ?_
    simp [(sec.draftBody_reports settings phase n hn).isSectionEmpty_eq_false]
  refine ⟨_, isBelowTitle_of_mem_draftBody hbody, congrArg Draft.items heq, ?_⟩
  rw [heq, List.filter_append, List.filter_append, filter_lookupNotices, hchoices]
  split <;> rfl

/-- **The title of a section that could be drafted in both phases.** -/
theorem titled_of_ok {w : Phase → Bool}
    (h : ∀ phase, (sec.draft settings phase label).outcome = .ok (w phase)) :
    sec.Titled settings label w := by
  have happears : ∀ phase, sec.appears settings phase = .ok (w phase) :=
    fun phase => (draft_eq_of_ok (h phase)).1
  have hout : ∀ phase, w phase = false → (sec.draft settings phase label).items = [] := by
    intro phase hw
    rw [(draft_eq_of_ok (h phase)).2.1 hw]
  refine ⟨exists_appears_iff happears, exists_hasEntry_of_appears happears, ?_, ?_, ?_, ?_⟩
  · intro phase hw level
    obtain ⟨body, -, hitems, -⟩ := exists_items_of_written (hw ▸ h phase)
    rw [hitems, Block.allLines_cons, Block.allLines_title]
    exact List.prefix_append _ _
  · intro phase level
    cases hw : w phase with
    | false =>
      rw [hout phase hw]
      rfl
    | true =>
      obtain ⟨body, hbody, hitems, -⟩ := exists_items_of_written (hw ▸ h phase)
      rw [hitems, Block.headers_allLines (Block.forall_writesLine_title_cons hbody)]
      exact congrArg (List.cons _) (Block.titles_eq_nil hbody)
  · intro phase hw b
    rw [hout phase hw]
    rfl
  · intro phase level
    cases hw : w phase with
    | false =>
      rw [(draft_eq_of_ok (h phase)).2.1 hw]
      exact filter_lookupNotices
    | true =>
      obtain ⟨body, hbody, hitems, hreports⟩ := exists_items_of_written (hw ▸ h phase)
      have hlines := Block.allLines_eq_nil_iff (fun b hb => (hbody b hb).2) level
      rw [hreports, hitems, Block.allLines_cons, Block.allLines_title]
      simp [hlines]

end ChoiceSection

/-! ## The titles of both bodies -/

namespace ChoiceSection

/-- Whether a section of a configuration is written in a phase. -/
def isWritten (sec : ChoiceSection) (catalog : Catalog) (phase : Phase) : Bool :=
  (sec.active? catalog).any fun settings =>
    (sec.appears settings phase).toOption == some true

/-- The titles of sections in a phase. -/
def titlesOf (catalog : Catalog) (phase : Phase) (secs : List ChoiceSection) : List String :=
  (secs.filter fun sec => sec.isWritten catalog phase).map fun sec =>
    sec.titleText (some (catalog.displayName sec.feature))

theorem titlesOf_append (catalog : Catalog) (phase : Phase) (secs more : List ChoiceSection) :
    titlesOf catalog phase (secs ++ more) =
      titlesOf catalog phase secs ++ titlesOf catalog phase more := by
  rw [titlesOf, List.filter_append, List.map_append]
  rfl

end ChoiceSection

/-- The draft holds some titles with what stands below them, and ends with their number. -/
structure Draft.Counts (d : Draft Block Nat) (titles : List String) : Prop where
  items : Block.titles d.items = titles
  written : ∀ b ∈ d.items, b.WritesLine
  outcome : d.outcome = .ok titles.length

theorem Draft.Counts.add {d d' : Draft Block Nat} {titles more : List String}
    (h : d.Counts titles) (h' : d'.Counts more) :
    (d >>= fun n => d' >>= fun m => pure (n + m)).Counts (titles ++ more) := by
  rw [Draft.bind_eq, Draft.bind_of_ok h.outcome, Draft.bind_eq, Draft.bind_of_ok h'.outcome]
  refine ⟨?_, ?_, ?_⟩
  · rw [← h.items, ← h'.items]
    simp [Block.titles]
  · simpa [or_imp, forall_and] using And.intro h.written h'.written
  · rw [List.length_append]
    rfl

section Groups

variable {catalog : Catalog} {phase : Phase}

open ChoiceSection

theorem counts_draftSection {sec : ChoiceSection} {n : Nat}
    (h : (draftSection catalog phase sec).outcome = .ok n) :
    (draftSection catalog phase sec).Counts (titlesOf catalog phase [sec]) := by
  cases hactive : sec.active? catalog with
  | none =>
    rw [draftSection_of_not_active h hactive]
    constructor <;> simp [titlesOf, isWritten, hactive, Block.titles]
  | some settings =>
    obtain ⟨w, hw, heq⟩ := draftSection_of_active h hactive
    obtain ⟨happears, hout, -⟩ := draft_eq_of_ok hw
    have hwritten : sec.isWritten catalog phase = w := by
      cases w <;> simp [isWritten, hactive, happears, Except.toOption]
    rw [heq, titlesOf, List.filter_singleton, hwritten]
    cases w with
    | false =>
      rw [hout rfl]
      exact ⟨rfl, List.forall_mem_nil _, rfl⟩
    | true =>
      obtain ⟨body, hbody, hitems, -⟩ := exists_items_of_written hw
      refine ⟨?_, ?_, rfl⟩
      · rw [hitems]
        exact congrArg (List.cons _) (Block.titles_eq_nil hbody)
      · rw [hitems]
        exact Block.forall_writesLine_title_cons hbody

theorem counts_draftSections {secs : List ChoiceSection} {n : Nat}
    (h : (draftSections catalog phase secs).outcome = .ok n) :
    (draftSections catalog phase secs).Counts (titlesOf catalog phase secs) := by
  induction secs generalizing n with
  | nil => exact ⟨rfl, List.forall_mem_nil _, rfl⟩
  | cons sec secs ih =>
    obtain ⟨k, hsec, h, -⟩ := Draft.exists_of_bind_ok h
    obtain ⟨m, hsecs, -, -⟩ := Draft.exists_of_bind_ok h
    rw [← List.singleton_append, titlesOf_append]
    exact (counts_draftSection hsec).add (ih hsecs)

theorem ChoiceGroup.counts_draft {g : ChoiceGroup} {n : Nat}
    (h : (g.draft catalog phase).outcome = .ok n) :
    (g.draft catalog phase).Counts (titlesOf catalog phase g.sections) := by
  obtain ⟨hsections, heq⟩ := ChoiceGroup.draft_of_ok h
  obtain ⟨hitems, hwritten, houtcome⟩ := counts_draftSections hsections
  rw [hsections] at houtcome
  rw [heq]
  exact ⟨hitems, hwritten, houtcome⟩

/-- **The sections of all groups are counted by their titles.** -/
theorem counts_draftGroups {gs : List ChoiceGroup} {n : Nat}
    (h : (draftGroups catalog phase gs).outcome = .ok n) :
    (draftGroups catalog phase gs).Counts
      (titlesOf catalog phase (gs.flatMap ChoiceGroup.sections)) := by
  induction gs generalizing n with
  | nil => exact ⟨rfl, List.forall_mem_nil _, rfl⟩
  | cons g gs ih =>
    rw [List.flatMap_cons, titlesOf_append]
    cases hempty : g.sections.isEmpty with
    | true =>
      simp only [draftGroups, hempty, if_true] at h ⊢
      obtain ⟨_, -, h, -⟩ := Draft.exists_of_bind_ok h
      obtain ⟨m, hgs, -, -⟩ := Draft.exists_of_bind_ok h
      rw [List.isEmpty_iff.mp hempty]
      exact Draft.Counts.add (d := pure 0) ⟨rfl, List.forall_mem_nil _, rfl⟩ (ih hgs)
    | false =>
      simp only [draftGroups, hempty, Bool.false_eq_true, if_false] at h ⊢
      obtain ⟨k, hg, h, -⟩ := Draft.exists_of_bind_ok h
      obtain ⟨m, hgs, -, -⟩ := Draft.exists_of_bind_ok h
      exact (ChoiceGroup.counts_draft hg).add (ih hgs)

theorem exists_isWritten {gs : List ChoiceGroup} {count : Phase → Nat}
    (h : ∀ phase, (draftGroups catalog phase gs).outcome = .ok (count phase))
    {sec : ChoiceSection} (hsec : sec ∈ gs.flatMap ChoiceGroup.sections) {settings : List Setting}
    (hactive : sec.active? catalog = some settings) (hkept : sec.kept settings ≠ []) :
    ∃ phase, sec.isWritten catalog phase = true := by
  have happears : ∀ phase, ∃ w, sec.appears settings phase = .ok w := by
    intro phase
    obtain ⟨k, hk⟩ := exists_draftSection_of_ok (h phase) hsec
    obtain ⟨w, hw, -⟩ := draftSection_of_active hk hactive
    exact ⟨w, (draft_eq_of_ok hw).1⟩
  choose w hw using happears
  obtain ⟨phase, hphase⟩ := (exists_appears_iff hw).mpr hkept
  refine ⟨phase, ?_⟩
  simp [isWritten, hactive, hw, hphase, Except.toOption]

end Groups

/-! ## Compilations -/

/-- The number of sections of a phase that went into a script. -/
def Tally.sections (t : Tally) : Phase → Nat
  | .system => t.systemSections
  | .user => t.userSections

/-- A finished script is made of two bodies, in each of which the lines of the sections stand in one
piece. The headers among these lines are the titles of the sections that are written, and the
counters are their numbers; every section that is included, known and has a choice to carry out is
written somewhere. -/
structure Compilation.CountsTitles (c : Compilation) (catalog : Catalog)
    (config : Configuration) : Prop where
  bodies : ∃ (snapshot : Snapshot) (body : Phase → PhaseBody),
    let a := Assembler.ofCatalog catalog
    (a.systemPhase config snapshot).outcome = .ok (body .system) ∧
      (a.userPhase config).outcome = .ok (body .user) ∧
      c.script = Step.render (a.documentSteps (body .system) (body .user)) ∧
      ∀ phase,
        (body phase).sectionLines phase <:+: Step.allLines 0 ((body phase).phaseSteps phase) ∧
        headers ((body phase).sectionLines phase) =
          ChoiceSection.titlesOf catalog phase config.sections ∧
        c.tally.sections phase = (headers ((body phase).sectionLines phase)).length
  counted : ∀ sec ∈ config.sections, ∀ settings, sec.active? catalog = some settings →
    sec.kept settings ≠ [] → ∃ phase, sec.isWritten catalog phase = true

theorem exists_assembly_of_compile {σ : Type} {services : Services σ}
    {checker? : Option (Checker σ)} {catalog : Catalog} {config : Configuration} {machine : σ}
    {c : Compilation}
    (h : (compile services checker? catalog config machine).outcome = .ok c) :
    ∃ s, ((Assembler.ofCatalog catalog).assemble config s).outcome = .ok c.script ∧
      ((Assembler.ofCatalog catalog).assemble config s).tally = c.tally := by
  simp only [compile, Action.watched] at h
  obtain ⟨_, -, h⟩ := Action.exists_of_bind_ok h
  obtain ⟨s, -, h⟩ := Action.exists_of_bind_ok h
  obtain ⟨_, -, h⟩ := Action.exists_of_bind_ok h
  obtain ⟨⟨script, tally⟩, hdraft, h⟩ := Action.exists_of_bind_ok h
  obtain ⟨validated, -, h⟩ := Action.exists_of_bind_ok h
  obtain ⟨_, -, h⟩ := Action.exists_of_bind_ok h
  obtain ⟨warnings, -, h⟩ := Action.exists_of_bind_ok h
  cases h
  obtain ⟨_, -, hdraft⟩ := Action.exists_of_bind_ok hdraft
  obtain ⟨script', hscript, hdraft⟩ := Action.exists_of_bind_ok hdraft
  obtain ⟨_, -, hdraft⟩ := Action.exists_of_bind_ok hdraft
  cases hdraft
  exact ⟨s, hscript, rfl⟩

/-- The body of a phase holds the sections of all groups, and their number is counted. -/
theorem Assembler.exists_bodies_of_ok {a : Assembler} {config : Configuration}
    {snapshot : Snapshot} {script : String}
    (h : (a.assemble config snapshot).outcome = .ok script) :
    ∃ body : Phase → PhaseBody, (a.systemPhase config snapshot).outcome = .ok (body .system) ∧
      (a.userPhase config).outcome = .ok (body .user) ∧
      script = Step.render (a.documentSteps (body .system) (body .user)) ∧
      ∀ phase, (body phase).blocks = (draftGroups a.catalog phase config.groups).items ∧
        (draftGroups a.catalog phase config.groups).outcome =
          .ok ((a.assemble config snapshot).tally.sections phase) := by
  obtain ⟨system, user, hsystem, huser, hscript, heq⟩ := assemble_eq_of_ok h
  obtain ⟨power?, n, -, -, hn, hsystemEq, hsystemBody⟩ := systemPhase_eq_of_ok hsystem
  obtain ⟨m, hm, huserEq, huserBody⟩ := userPhase_eq_of_ok huser
  have htally : (a.assemble config snapshot).tally.systemSections = n ∧
      (a.assemble config snapshot).tally.userSections = m := by
    rw [heq, hsystemEq, huserEq]
    exact ⟨rfl, rfl⟩
  refine ⟨fun | .system => system | .user => user, hsystem, huser, hscript, fun phase => ?_⟩
  cases phase with
  | system =>
    exact ⟨congrArg PhaseBody.blocks hsystemBody, hn.trans (congrArg Except.ok htally.1.symm)⟩
  | user =>
    exact ⟨congrArg PhaseBody.blocks huserBody, hm.trans (congrArg Except.ok htally.2.symm)⟩

theorem countsTitles_of_compile {σ : Type} {services : Services σ}
    {checker? : Option (Checker σ)} {catalog : Catalog} {config : Configuration} {machine : σ}
    {c : Compilation}
    (h : (compile services checker? catalog config machine).outcome = .ok c) :
    c.CountsTitles catalog config := by
  obtain ⟨s, hscript, htally⟩ := exists_assembly_of_compile h
  obtain ⟨body, hsystem, huser, hrender, hbodies⟩ := Assembler.exists_bodies_of_ok hscript
  have hcount : ∀ phase,
      (draftGroups catalog phase config.groups).outcome = .ok (c.tally.sections phase) :=
    fun phase => htally ▸ (hbodies phase).2
  refine ⟨⟨s, body, hsystem, huser, hrender, fun phase => ?_⟩, fun sec hsec settings => ?_⟩
  · obtain ⟨hitems, hwritten, houtcome⟩ := counts_draftGroups (hcount phase)
    rw [hcount phase, Except.ok.injEq] at houtcome
    have hblocks : (body phase).blocks = (draftGroups catalog phase config.groups).items :=
      (hbodies phase).1
    have hheaders : headers ((body phase).sectionLines phase) =
        ChoiceSection.titlesOf catalog phase config.sections := by
      rw [PhaseBody.sectionLines, hblocks, Block.headers_allLines hwritten, hitems]
      rfl
    have hcount : c.tally.sections phase = (headers ((body phase).sectionLines phase)).length := by
      rw [hheaders, houtcome]
      rfl
    exact ⟨(body phase).sectionLines_infix_phaseSteps phase, hheaders, hcount⟩
  · exact exists_isWritten hcount hsec

/-- **Headers are traceable.** A section that can be drafted in both phases has its header in one of
them exactly if it has a choice to carry out, in both only with an entry in each, leaves nothing
where it has none, and reports a header that no line stands below. So the counters of a compilation
are the numbers of headers in its two bodies, and every section that is included, known and has a
choice to carry out is counted. -/
theorem titles_counted :
    (∀ (sec : ChoiceSection) (settings : List Setting) (label : Option String) (w : Phase → Bool),
      (∀ phase, (sec.draft settings phase label).outcome = .ok (w phase)) →
        sec.Titled settings label w) ∧
      ∀ (σ : Type) (services : Services σ) (checker? : Option (Checker σ)) (catalog : Catalog)
        (config : Configuration) (machine : σ) (c : Compilation),
        (compile services checker? catalog config machine).outcome = .ok c →
          c.CountsTitles catalog config :=
  ⟨fun _ _ _ _ h => ChoiceSection.titled_of_ok h, fun _ _ _ _ _ _ _ h => countsTitles_of_compile h⟩

theorem titles_counted_darkMode :
    let sec : ChoiceSection := ⟨"theme", [⟨"dark-mode", .toggle, .bool true, none, none, .null,
      .null⟩], true⟩
    sec.Titled [darkMode] none (fun _ => true) ∧
      headerLines 0 "THEME SETTINGS" <+:
        Block.allLines 0 (sec.draft [darkMode] .system none).items ∧
      ∃ c, (compile (Services.fixed (fun _ machine => machine) .empty) none
          ⟨[⟨.str "theme", "Theme", [darkMode]⟩]⟩ darkConfiguration ()).outcome = .ok c ∧
        c.tally.systemSections = 1 ∧ c.tally.userSections = 1 ∧
        c.CountsTitles ⟨[⟨.str "theme", "Theme", [darkMode]⟩]⟩ darkConfiguration := by
  intro sec
  have hdraft : ∀ phase, (sec.draft [darkMode] phase none).outcome = .ok true := by
    intro phase
    cases phase <;> rfl
  have hcompile : (compile (Services.fixed (fun _ machine => machine) .empty) none
      ⟨[⟨.str "theme", "Theme", [darkMode]⟩]⟩ darkConfiguration ()).outcome = .ok _ := rfl
  have htitle : sec.titleText none = "THEME SETTINGS" := by decide +kernel
  obtain ⟨hsection, hcompilation⟩ := titles_counted
  have htitled := hsection sec [darkMode] none _ hdraft
  have hbegins := htitled.begins .system rfl 0
  rw [htitle] at hbegins
  exact ⟨htitled, hbegins, _, hcompile, rfl, rfl, hcompilation _ _ _ _ _ _ _ hcompile⟩

end Provision
