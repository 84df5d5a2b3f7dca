import Mathlib
import Provision.Compilation.Basic
import Provision.Proofs.Checking
import Provision.Proofs.Section

/-!
# Warnings are reported once

Both phases look up the same choices, so that they give the same warnings. A collector keeps one of
each and passes one of each on.

* `Entry.warning?`, `warningsIn`, `errorsIn`: the warnings and errors in a journal.
* `firstReports`: a journal without the warnings that it holds earlier.
* `Collector.Collects`: what a collector has after a journal; `Collector.Collects.record` is the
  step and `Collector.Collects.recordAll` the run.
* `Action.Relays`: work all of whose notices go through the collector.
* `Compilation.Warned`: what is so of the warnings of a compilation.
* **`warnings_collected`**: what a collector keeps and passes on, and what that means for a
  compilation with services that answer from a snapshot.
-/

namespace Provision

/-! ## Warnings and errors of a journal -/

/-- The warning that an entry gives. -/
def Entry.warning? : Entry → Option String
  | note .warning topic message => some (mark topic message)
  | _ => none

/-- The error that an entry reports. -/
def Entry.error? : Entry → Option String
  | note .error topic message => some (mark topic message)
  | _ => none

/-- The warnings in a journal. -/
def warningsIn (journal : List Entry) : List String := journal.filterMap Entry.warning?

/-- The errors in a journal. -/
def errorsIn (journal : List Entry) : List String := journal.filterMap Entry.error?

/-- An entry gives a warning that was given before. -/
def Entry.isRepeat (before : List Entry) (e : Entry) : Bool :=
  e.warning?.any fun w => (warningsIn before).contains w

/-- A journal without the warnings that it holds earlier. -/
def firstReports (journal : List Entry) : List Entry :=
  (journal.zipIdx.filter fun e => !e.1.isRepeat (journal.take e.2)).map Prod.fst

@[simp] theorem warningsIn_append (j j' : List Entry) :
    warningsIn (j ++ j') = warningsIn j ++ warningsIn j' := List.filterMap_append

@[simp] theorem errorsIn_append (j j' : List Entry) :
    errorsIn (j ++ j') = errorsIn j ++ errorsIn j' := List.filterMap_append

theorem firstReports_concat (journal : List Entry) (e : Entry) :
    firstReports (journal ++ [e]) =
      firstReports journal ++ if e.isRepeat journal then [] else [e] := by
  have hbefore : journal.zipIdx.filter (fun x => !x.1.isRepeat ((journal ++ [e]).take x.2)) =
      journal.zipIdx.filter fun x => !x.1.isRepeat (journal.take x.2) := by
    refine List.filter_congr fun x hx => ?_
    have hle : x.2 ≤ journal.length := by
      obtain ⟨hlt, -⟩ := List.getElem?_eq_some_iff.mp (List.mem_zipIdx_iff_getElem?.mp hx)
      exact hlt.le
    rw [List.take_append_of_le_length hle]
  rw [firstReports, firstReports, List.zipIdx_append, List.filter_append, List.map_append, hbefore]
  cases hrepeat : e.isRepeat journal <;> simp [hrepeat]

/-! ## Collectors -/

namespace Collector

/-- A collector has seen a journal: it keeps the distinct warnings in the order in which they were
first given and all errors, and has passed on everything but the warnings given before. -/
structure Collects (c : Collector) (passed journal : List Entry) : Prop where
  warnings : c.warnings = (warningsIn journal).eraseDups
  errors : c.errors = errorsIn journal
  passed : passed = firstReports journal

theorem record_of_warning {c : Collector} {e : Entry} {w : String} (h : e.warning? = some w) :
    c.record e =
      if c.warnings.contains w then (c, []) else (⟨c.warnings ++ [w], c.errors⟩, [e]) := by
  unfold Entry.warning? at h
  split at h
  · cases h
    rfl
  · cases h

theorem record_of_no_warning {c : Collector} {e : Entry} (h : e.warning? = none) :
    c.record e = (⟨c.warnings, c.errors ++ e.error?.toList⟩, [e]) := by
  unfold Entry.warning? at h
  split at h
  · cases h
  · unfold record Entry.error?
    split <;> simp_all

namespace Collects

variable {c : Collector} {passed journal : List Entry}

theorem empty : Collector.empty.Collects [] [] := ⟨rfl, rfl, rfl⟩

theorem record (h : c.Collects passed journal) (e : Entry) :
    (c.record e).1.Collects (passed ++ (c.record e).2) (journal ++ [e]) := by
  obtain ⟨hwarnings, herrors, hpassed⟩ := h
  cases hw : e.warning? with
  | none =>
    have hrepeat : e.isRepeat journal = false := by simp [Entry.isRepeat, hw]
    rw [record_of_no_warning hw]
    refine ⟨?_, ?_, ?_⟩
    · simp [hwarnings, warningsIn, hw]
    · cases he : e.error? <;> simp [herrors, errorsIn, he]
    · rw [firstReports_concat, hrepeat, hpassed]
      rfl
  | some w =>
    have herror : e.error? = none := by
      unfold Entry.warning? at hw
      split at hw
      · rfl
      · cases hw
    have hseen : c.warnings.contains w = (warningsIn journal).contains w := by
      rw [hwarnings, Bool.eq_iff_iff, List.contains_iff_mem, List.contains_iff_mem,
        List.mem_eraseDups]
    have hrepeat : e.isRepeat journal = (warningsIn journal).contains w := by
      simp [Entry.isRepeat, hw]
    have hmore : warningsIn (journal ++ [e]) = warningsIn journal ++ [w] := by
      simp [warningsIn, hw]
    rw [record_of_warning hw, hseen]
    refine ⟨?_, ?_, ?_⟩
    · rw [hmore, Table.eraseDups_concat, ← hwarnings]
      split <;> simp
    · have : errorsIn [e] = [] := by simp [errorsIn, herror]
      rw [errorsIn_append, this, List.append_nil, ← herrors]
      split <;> rfl
    · rw [firstReports_concat, hrepeat, hpassed]
      split <;> rfl

/-- **A collector keeps up with a journal** of any length. -/
theorem recordAll (h : c.Collects passed journal) (es : List Entry) :
    (c.recordAll es).1.Collects (passed ++ (c.recordAll es).2) (journal ++ es) := by
  induction es generalizing c passed journal with
  | nil => simpa [Collector.recordAll] using h
  | cons e es ih =>
    have hnext := ih (h.record e)
    simpa [Collector.recordAll] using hnext

end Collects

theorem collects_recordAll (es : List Entry) :
    (empty.recordAll es).1.Collects (empty.recordAll es).2 es := by
  simpa using Collects.empty.recordAll es

/-- What a collector has passed on goes through another one like it, or again through itself, as a
whole. -/
theorem recordAll_passed (c : Collector) (es : List Entry) :
    c.recordAll (c.recordAll es).2 = c.recordAll es := by
  induction es generalizing c with
  | nil => rfl
  | cons e es ih =>
    have hpassed : c.record e = (c, []) ∨ (c.record e).2 = [e] := by
      cases hw : e.warning? with
      | none => exact .inr (by rw [record_of_no_warning hw])
      | some w =>
        rw [record_of_warning hw]
        split
        · exact .inl rfl
        · exact .inr rfl
    rcases hpassed with h | h
    · simp only [recordAll, h, List.nil_append, ih]
    · simp only [recordAll, h, List.singleton_append, ih]

theorem warnings_recordAll (c : Collector) (es : List Entry) :
    (c.recordAll es).1.warnings = c.warnings ++ warningsIn (c.recordAll es).2 := by
  induction es generalizing c with
  | nil => simp [recordAll, warningsIn]
  | cons e es ih =>
    have hone : (c.record e).1.warnings = c.warnings ++ warningsIn (c.record e).2 := by
      cases hw : e.warning? with
      | none => simp [record_of_no_warning hw, warningsIn, hw]
      | some w =>
        rw [record_of_warning hw]
        split <;> simp [warningsIn, hw]
    simp only [recordAll, ih, hone, warningsIn_append, List.append_assoc]

end Collector

/-! ## Work that reports through a collector -/

namespace Action

variable {σ α β : Type}

theorem bind_assoc {γ : Type} (x : Action σ α) (f : α → Action σ β) (g : β → Action σ γ) :
    (x.bind f).bind g = x.bind fun a => (f a).bind g := by
  funext s
  cases hx : (x s).outcome with
  | error e => simp only [Action.bind, hx]
  | ok a => cases hf : (f a (x s).machine).outcome <;> simp [Action.bind, hx, hf]

/-- Whenever the work ends well, its notices have all gone through the collector, and they are as
the relation says. -/
def Relays (x : Action (Watched σ) α) (R : α → List Notice → Prop) : Prop :=
  ∀ w a, (x w).outcome = .ok a → ∃ notices, R a notices ∧
    ((x w).machine.collector, (x w).journal) = w.collector.recordAll (notices.map Notice.entry)

namespace Relays

variable {R : α → List Notice → Prop}

theorem bind {x : Action (Watched σ) α} {f : α → Action (Watched σ) β}
    {S : α → β → List Notice → Prop} {T : β → List Notice → Prop} (hx : x.Relays R)
    (hf : ∀ a, (f a).Relays (S a))
    (h : ∀ a b notices more, R a notices → S a b more → T b (notices ++ more)) :
    (x.bind f).Relays T := by
  intro w b hb
  obtain ⟨a, ha, hb⟩ := exists_of_bind_ok hb
  obtain ⟨notices, hR, hx⟩ := hx w a ha
  obtain ⟨more, hS, hf⟩ := hf a (x w).machine b hb
  obtain ⟨hcollector, hjournal⟩ := Prod.mk.inj hx
  rw [hcollector] at hf
  obtain ⟨hcollector', hjournal'⟩ := Prod.mk.inj hf
  refine ⟨notices ++ more, h a b notices more hR hS, ?_⟩
  rw [bind_of_ok ha, List.map_append, Collector.recordAll_append]
  simp only [hjournal, hcollector', hjournal']

theorem pure (a : α) : (Pure.pure a : Action (Watched σ) α).Relays
    fun b notices => b = a ∧ notices = [] := fun _ _ h => ⟨[], ⟨(Except.ok.inj h).symm, rfl⟩, rfl⟩

theorem ofExcept (r : Except Failure α) : (Action.ofExcept r : Action (Watched σ) α).Relays
    fun a notices => r = .ok a ∧ notices = [] := fun _ _ h => ⟨[], ⟨h, rfl⟩, rfl⟩

theorem tell (notices : List Notice) : (Action.tell notices : Action (Watched σ) Unit).Relays
    fun _ told => told = notices := fun _ _ _ => ⟨notices, rfl, rfl⟩

theorem beside {x : Action σ α} {a : α} (h : ∀ m, (x m).outcome = .ok a ∧ (x m).journal = []) :
    (Action.beside x).Relays fun b notices => b = a ∧ notices = [] := by
  intro w b hb
  obtain ⟨houtcome, hjournal⟩ := h w.machine
  refine ⟨[], ⟨Except.ok.inj (hb.symm.trans houtcome), rfl⟩, ?_⟩
  exact Prod.ext rfl hjournal

end Relays

end Action

/-! ## Compilations with fixed services -/

/-- What a compilation learns from services that answer from a snapshot: without a plan it asks for
no readings. -/
def Snapshot.asked (s : Snapshot) : Snapshot :=
  { s with readings := if s.plan.isSome then s.readings else [] }

namespace Compilation

open Provision.Action (Relays)

variable {σ : Type} {note : Call → σ → σ}

theorem powerState_relays (s : Snapshot) : (powerState (Services.fixed note s)).Relays
    fun power _ => power = (s.asked.plan, s.asked.readings) := by
  simp only [powerState, Action.bind_eq]
  refine (Relays.beside (a := s.plan) fun m => ⟨rfl, rfl⟩).bind
    (S := fun plan? power _ => plan? = s.plan → power = (s.asked.plan, s.asked.readings))
    (fun plan? => ?_) fun _ _ _ _ hplan hpower => hpower hplan.1
  cases plan? with
  | none =>
    refine (Relays.tell _).bind (fun _ => .pure _) fun _ power _ _ _ hpower hplan => ?_
    rw [hpower.1, Snapshot.asked, ← hplan]
    rfl
  | some plan =>
    refine (Relays.tell _).bind (S := fun _ power _ => power = (some plan, s.readings))
      (fun _ => ?_) fun _ power _ _ _ hpower hplan => ?_
    · exact (Relays.beside (a := s.readings) fun m => ⟨rfl, rfl⟩).bind (fun _ => .pure _)
        fun _ _ _ _ hreadings hpower => hpower.1.trans (congrArg _ hreadings.1)
    · rw [hpower, Snapshot.asked, ← hplan]
      rfl

theorem snapshot_relays (s : Snapshot) :
    (snapshot (Services.fixed note s)).Relays fun taken _ => taken = s.asked := by
  refine (powerState_relays s).bind
    (S := fun power taken _ => taken = ⟨power.1, power.2, s.hasBattery⟩) (fun power => ?_)
    fun power taken _ _ hpower htaken => ?_
  · refine (Relays.tell _).bind (S := fun _ taken _ => taken = ⟨power.1, power.2, s.hasBattery⟩)
      (fun _ => ?_) fun _ _ _ _ _ h => h
    refine (Relays.beside (a := s.hasBattery) fun m => ⟨rfl, rfl⟩).bind
      (S := fun battery taken _ => taken = ⟨power.1, power.2, battery⟩)
      (fun battery => ?_) fun _ _ _ _ hbattery h => hbattery.1 ▸ h
    exact (Relays.tell _).bind (fun _ => .pure _) fun _ _ _ _ _ h => h.1
  · rw [htaken, hpower]
    rfl

theorem draft_relays (catalog : Catalog) (config : Configuration) (s : Snapshot) :
    let assembly := (Assembler.ofCatalog catalog).assemble config s
    (draft catalog config s : Action (Watched σ) _).Relays fun made notices =>
      assembly.outcome = .ok made.1 ∧ ∀ n ∈ assembly.notices, n ∈ notices := by
  intro assembly
  simp only [draft, Action.bind_eq]
  refine (Relays.tell _).bind (S := fun _ made _ => assembly.outcome = .ok made.1) (fun _ => ?_)
    fun _ _ notices more htold hmade => ⟨hmade, ?_⟩
  · refine (Relays.ofExcept _).bind (S := fun script made _ => made.1 = script) (fun script => ?_)
      fun script made _ _ hscript hmade => hmade ▸ hscript.1
    exact (Relays.tell _).bind (fun _ => .pure _) fun _ _ _ _ _ h => congrArg Prod.fst h.1
  · intro n hn
    exact List.mem_append_left more (htold ▸ hn)

/-- What a compilation does up to the check of its script. -/
def drafted (services : Services σ) (catalog : Catalog) (config : Configuration) :
    Action (Watched σ) (String × Tally) := do
  announce (.stage .readingPower)
  let s ← snapshot services
  announce (.stage .assembling)
  draft catalog config s

/-- The end of a compilation whose script was checked or need not be. -/
def concluded (made : String × Tally) (validated : Bool) : Action (Watched σ) Compilation := do
  announce .compiled
  return ⟨made.1, ← warningsSoFar, made.2, validated, none⟩

theorem drafted_relays (s : Snapshot) (catalog : Catalog) (config : Configuration) :
    let assembly := (Assembler.ofCatalog catalog).assemble config s.asked
    (drafted (Services.fixed note s) catalog config).Relays fun made notices =>
      assembly.outcome = .ok made.1 ∧ ∀ n ∈ assembly.notices, n ∈ notices := by
  intro assembly
  let R := fun (made : String × Tally) (notices : List Notice) =>
    assembly.outcome = .ok made.1 ∧ ∀ n ∈ assembly.notices, n ∈ notices
  have hmore : ∀ made notices more, R made more → R made (notices ++ more) :=
    fun _ _ _ h => ⟨h.1, fun n hn => List.mem_append_right _ (h.2 n hn)⟩
  refine (Relays.tell _).bind (S := fun _ => R) (fun _ => ?_) fun _ _ _ _ _ => hmore _ _ _
  refine (snapshot_relays s).bind
    (S := fun taken made notices => taken = s.asked → R made notices) (fun taken => ?_)
    fun _ _ _ _ htaken h => hmore _ _ _ (h htaken)
  refine (Relays.tell _).bind
    (S := fun _ made notices => taken = s.asked → R made notices)
    (fun _ => ?_) fun _ _ _ _ _ h htaken => hmore _ _ _ (h htaken)
  intro w made hmade
  obtain ⟨notices, hR, heq⟩ := draft_relays catalog config taken w made hmade
  refine ⟨notices, ?_, heq⟩
  rintro rfl
  exact hR

theorem watchedRun_eq (services : Services σ) (checker? : Option (Checker σ)) (catalog : Catalog)
    (config : Configuration) : watchedRun services checker? catalog config =
      (drafted services catalog config).bind fun made =>
        (validate checker? made.1).bind (concluded made) := by
  simp only [drafted, Action.bind_eq, Action.bind_assoc]
  rfl

/-- The warnings that a checker has reported itself, on some machine. -/
def CheckerWarned (checker? : Option (Checker σ)) (script : String) (own : List String) : Prop :=
  match checker? with
  | none => own = []
  | some checker => ∃ m, own = warningsIn (checker script m).journal

/-- The check of a script reports through the collector but for what the checker reports itself. -/
theorem validate_of_ok {checker? : Option (Checker σ)} {script : String} {w : Watched σ} {b : Bool}
    (h : (validate checker? script w).outcome = .ok b) :
    ∃ (notices : List Notice) (own : List String), CheckerWarned checker? script own ∧
      (validate checker? script w).machine.collector =
        (w.collector.recordAll (notices.map Notice.entry)).1 ∧
      warningsIn (validate checker? script w).journal =
        warningsIn (w.collector.recordAll (notices.map Notice.entry)).2 ++ own := by
  cases checker? with
  | none =>
    have hrelays : (validate none script : Action (Watched σ) Bool).Relays fun _ _ => True :=
      (Relays.tell _).bind (fun _ => (Relays.tell _).bind (fun _ => .pure false)
        (T := fun _ _ => True) fun _ _ _ _ _ _ => trivial) fun _ _ _ _ _ _ => trivial
    obtain ⟨notices, -, heq⟩ := hrelays w b h
    obtain ⟨hcollector, hjournal⟩ := Prod.mk.inj heq
    exact ⟨notices, [], rfl, hcollector, by rw [hjournal, List.append_nil]⟩
  | some checker =>
    have hchecked : (checker script w.machine).outcome = .ok () := by
      obtain ⟨_, -, h⟩ := Action.exists_of_bind_ok h
      obtain ⟨q, hq, h⟩ := Action.exists_of_bind_ok h
      cases q with
      | ok u => exact Except.ok.inj hq
      | error f =>
        obtain ⟨_, -, h⟩ := Action.exists_of_bind_ok h
        cases h
    have hrun : validate (some checker) script w = ⟨.ok true,
        ⟨(checker script w.machine).machine, w.collector⟩,
        Notice.entry (.stage .validating) :: (checker script w.machine).journal⟩ := by
      simp [validate, Action.bind, announce, Action.tell, Action.attempt, Action.beside, hchecked,
        Collector.recordAll, Collector.record, Notice.entry]
    rw [hrun]
    exact ⟨[], _, ⟨_, rfl⟩, rfl, rfl⟩

theorem concluded_of_ok {made : String × Tally} {validated : Bool} {w : Watched σ} {c : Compilation}
    (h : (concluded made validated w).outcome = .ok c) :
    c.script = made.1 ∧ c.warnings = w.collector.warnings ∧
      warningsIn (concluded made validated w).journal = [] := by
  cases h
  exact ⟨rfl, rfl, rfl⟩

end Compilation

/-- A compilation with fixed services that ended well: the collector was given the notices of the
assembly and others, its warnings are those of the result, and what it passed on was received,
before the checker's own. -/
theorem exists_notices_of_compile {σ : Type} {note : Call → σ → σ} {s : Snapshot}
    {checker? : Option (Checker σ)} {catalog : Catalog} {config : Configuration} {m : σ}
    {c : Compilation}
    (h : (compile (Services.fixed note s) checker? catalog config m).outcome = .ok c) :
    let assembly := (Assembler.ofCatalog catalog).assemble config s.asked
    assembly.outcome = .ok c.script ∧ ∃ (notices : List Notice) (own : List String),
      (∀ n ∈ assembly.notices, n ∈ notices) ∧ Compilation.CheckerWarned checker? c.script own ∧
      c.warnings = (Collector.empty.recordAll (notices.map Notice.entry)).1.warnings ∧
      warningsIn (compile (Services.fixed note s) checker? catalog config m).journal =
        warningsIn (Collector.empty.recordAll (notices.map Notice.entry)).2 ++ own := by
  intro assembly
  simp only [compile, Action.watched, Compilation.watchedRun_eq] at h ⊢
  obtain ⟨made, hmade, h⟩ := Action.exists_of_bind_ok h
  obtain ⟨notices, ⟨hscript, hnotices⟩, hdrafted⟩ :=
    Compilation.drafted_relays s catalog config _ made hmade
  obtain ⟨validated, hvalidated, h⟩ := Action.exists_of_bind_ok h
  obtain ⟨more, own, hown, hcollector, hjournal⟩ := Compilation.validate_of_ok hvalidated
  obtain ⟨hc, hwarnings, hsilent⟩ := Compilation.concluded_of_ok h
  obtain ⟨hcollector', hjournal'⟩ := Prod.mk.inj hdrafted
  refine ⟨hc ▸ hscript, notices ++ more, own, fun n hn => List.mem_append_left _ (hnotices n hn),
    hc ▸ hown, ?_, ?_⟩
  · rw [hwarnings, hcollector, hcollector', List.map_append, Collector.recordAll_append]
  · rw [Action.bind_of_ok hmade, Action.bind_of_ok hvalidated]
    simp only [warningsIn_append, hjournal, hsilent, hjournal', hcollector', List.map_append,
      Collector.recordAll_append, List.append_nil, List.append_assoc]

theorem Checker.warningsIn_powerShell (executable : Option String) (limit : Int) (script : String)
    (m : Machine) : warningsIn (Checker.powerShell executable limit script m).journal = [] := by
  cases hhost : host? m executable with
  | error p => rw [powerShell_of_no_host hhost, warningsIn, List.filterMap_nil]
  | ok found =>
    cases hcontent : Text.marked? script with
    | none =>
      rw [powerShell_of_not_isEncodable hhost (by simpa [Text.marked?] using hcontent), warningsIn,
        List.filterMap_nil]
    | some content =>
      rw [powerShell_of_started hhost hcontent]
      simp only
      split <;> rfl

/-! ## Warnings of a compilation -/

/-- The warnings of a finished compilation for a snapshot: each is there once, they are those that
the journal holds but for what the checker reported itself, and none that a phase gave is
missing. -/
structure Compilation.Warned {σ : Type} (c : Compilation) (checker? : Option (Checker σ))
    (catalog : Catalog) (config : Configuration) (s : Snapshot) (journal : List Entry) : Prop where
  nodup : c.warnings.Nodup
  received : ∃ own, CheckerWarned checker? c.script own ∧ warningsIn journal = c.warnings ++ own
  complete : ∀ n ∈ ((Assembler.ofCatalog catalog).systemPhase config s).notices ++
    ((Assembler.ofCatalog catalog).userPhase config).notices,
    ∀ w, n.entry.warning? = some w → w ∈ c.warnings

theorem warned_of_compile {σ : Type} {note : Call → σ → σ} {s : Snapshot}
    {checker? : Option (Checker σ)} {catalog : Catalog} {config : Configuration} {m : σ}
    {c : Compilation}
    (h : (compile (Services.fixed note s) checker? catalog config m).outcome = .ok c) :
    c.Warned checker? catalog config s.asked
      (compile (Services.fixed note s) checker? catalog config m).journal := by
  obtain ⟨hscript, notices, own, hnotices, hown, hwarnings, hjournal⟩ := exists_notices_of_compile h
  obtain ⟨_, _, -, -, -, hphases⟩ := Assembler.assemble_of_ok hscript
  have hcollects := Collector.collects_recordAll (notices.map Notice.entry)
  have hpassed := Collector.warnings_recordAll Collector.empty (notices.map Notice.entry)
  refine ⟨?_, ⟨own, hown, ?_⟩, fun n hn w hw => ?_⟩
  · rw [hwarnings, hcollects.warnings]
    exact Table.nodup_eraseDups _
  · rw [hjournal, hwarnings, hpassed, Collector.empty, List.nil_append]
  · have hmem : n.entry ∈ notices.map Notice.entry :=
      List.mem_map_of_mem (hnotices n (hphases ▸ hn))
    rw [hwarnings, hcollects.warnings, List.mem_eraseDups]
    exact List.mem_filterMap.mpr ⟨n.entry, hmem, hw⟩

/-- **Warnings are reported once and none is lost**: a collector keeps the distinct warnings and all
errors of a journal and passes on all but the repeated warnings, so that a second collector finds
the same; and the warnings of a compilation are so. The usual check has none of its own. -/
theorem warnings_collected :
    (∀ journal, let t := Collector.empty.recordAll journal
      t.1.Collects t.2 journal ∧ t.1.warnings.Nodup ∧ Collector.empty.recordAll t.2 = t) ∧
    (∀ (σ : Type) (note : Call → σ → σ) (s : Snapshot) (checker? : Option (Checker σ))
      (catalog : Catalog) (config : Configuration) (m : σ) (c : Compilation),
      (compile (Services.fixed note s) checker? catalog config m).outcome = .ok c →
      c.Warned checker? catalog config s.asked
        (compile (Services.fixed note s) checker? catalog config m).journal) ∧
    ∀ executable limit script m,
      warningsIn (Checker.powerShell executable limit script m).journal = [] := by
  refine ⟨fun journal => ?_, fun _ _ _ _ _ _ _ _ h => warned_of_compile h,
    Checker.warningsIn_powerShell⟩
  have hcollects := Collector.collects_recordAll journal
  refine ⟨hcollects, ?_, Collector.recordAll_passed _ journal⟩
  rw [hcollects.warnings]
  exact Table.nodup_eraseDups _

/-- Both phases miss the same feature, which is reported once. -/
theorem warnings_collected_unknown :
    let config : Configuration := ⟨⟨"Optimize", [⟨"view", [], true⟩]⟩, ⟨"Customize", []⟩, []⟩
    let run := compile (Services.fixed (fun _ machine => machine) .empty) none ⟨[]⟩ config ()
    ∃ c, run.outcome = .ok c ∧
      c.warnings = ["[POWER] Could not determine the active power plan; no live values",
        "[FEATURE] Could not find setting definitions for feature: view",
        "[VALIDATE] Syntax validation skipped"] ∧
      c.Warned (none : Option (Checker Unit)) ⟨[]⟩ config Snapshot.empty.asked run.journal := by
  intro config run
  have hrun : run.outcome = .ok _ := rfl
  exact ⟨_, hrun, by decide +kernel, warnings_collected.2.1 _ _ _ _ _ _ _ _ hrun⟩

end Provision
