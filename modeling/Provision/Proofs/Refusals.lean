import Mathlib
import Provision.Power.Services
import Provision.Proofs.Agreement
import Provision.Proofs.FewDigits

/-!
# How reading and asking end

A document that is no good is refused with a problem, and a question that the machine does not
answer fails with a breakdown. Files that are no text, scalars without a value, numbers without a
text, programs that the system does not start and outputs that are no text end otherwise.

* `Settled`, `Answered`: the declared ways to end.
* `Document.IsJudged`, `Machine.Offers`: what is in a file is read or refused in words, with any
  reader of documents.
* `settled_loading_iff`: exactly then loading it is settled.
* `inspectsAsDeclared_iff`: when an inspection ends, and reports what was refused.
* `LiveServices.answered_activePlan_iff`, `LiveServices.answered_readings_iff`,
  `LiveServices.findsBattery_iff`: the questions break off only where a start does not end in an
  ordinary way.
* **`endsAsDeclared_iff`**: when all of them end as they should.
* **`endsAsDeclared_of_fewDigits`**: so they do for all documents without long numbers.
-/

namespace Provision

section Ends

variable {α : Type}

/-- Something was read, or refused with a problem. -/
def Settled (r : Except Failure α) : Prop := (∃ a, r = .ok a) ∨ ∃ p, r = .error (.problem p)

/-- Something was answered, or the question failed with a breakdown. -/
def Answered (r : Except Failure α) : Prop := (∃ a, r = .ok a) ∨ ∃ b, r = .error (.breakdown b)

end Ends

/-! ## Documents -/

section Documents

variable {α : Type} {read : Entries → Except Problem α} {p : Path} {m : Machine}

namespace Document

/-- What was read of a file is a document or the finding that there is none, and what is refused in
it can be worded. -/
structure IsJudged (read : Entries → Except Problem α) (r : Except DocumentFault Value) : Prop where
  fault : ∀ f, r = .error f → f = .malformed
  worded : ∀ v es, r = .ok v → v.opened = .map es → Worded (read es)

theorem isJudged_error_iff {f : DocumentFault} : IsJudged read (.error f) ↔ f = .malformed := by
  refine ⟨fun h => h.fault f rfl, fun hf => ⟨fun g hg => ?_, nofun⟩⟩
  cases hg
  exact hf

theorem isJudged_ok_iff {v : Value} :
    IsJudged read (.ok v) ↔ ∀ es : Entries, v.opened = .map es → Worded (read es) := by
  refine ⟨fun h es => h.worded v es rfl, fun hworded => ⟨nofun, fun w es hw => ?_⟩⟩
  cases hw
  exact hworded es

theorem settled_entries_iff {r : Except DocumentFault Value} :
    Settled (entries p r >>= fun es => (read es).mapError Failure.ofProblem) ↔ IsJudged read r := by
  cases r with
  | error f =>
    rw [isJudged_error_iff]
    cases f <;> simp [entries, Settled, failure, bind, Except.bind]
  | ok v =>
    rw [isJudged_ok_iff, entries]
    cases v.opened with
    | map es => exact settled_iff.trans (by simp)
    | _ => exact iff_of_true (.inr ⟨_, rfl⟩) nofun

/-- What loading the document at a path ends with. -/
def loading (read : Entries → Except Problem α) (p : Path) (m : Machine) : Except Failure α := do
  match ← (Machine.load p m).outcome with
  | none => .error (.problem (.fileMissing p.text))
  | some bytes => entries p (m.parse bytes) >>= fun es => (read es).mapError Failure.ofProblem

/-- What is reported changes nothing about how loading ends. -/
theorem outcome_loading (read : Entries → Except Problem α) (notices : α → List Notice)
    (p : Path) (m : Machine) :
    (((load p).bind fun es => (checked (read es)).bind fun a =>
      (Action.report (notices a)).bind fun _ => pure a) m).outcome = loading read p m := by
  have hload : (load p m).outcome = (Machine.load p m).outcome >>= fun
      | none => .error (.problem (.fileMissing p.text))
      | some bytes => entries p (m.parse bytes) := by
    rw [load, Action.bind_eq, Action.bind_of_ok rfl]
    dsimp only [Action.look]
    rw [Action.bind_eq, Action.outcome_bind]
    congr 1
    funext content
    cases content <;> rfl
  rw [Action.outcome_bind, hload, loading]
  cases (Machine.load p m).outcome with
  | error f => rfl
  | ok content =>
    cases content with
    | none => rfl
    | some bytes =>
      refine congrArg (entries p (m.parse bytes) >>= ·) (funext fun es => ?_)
      rw [Action.outcome_bind]
      exact bind_pure _

end Document

/-- What stands at a path can be read from the disk, and if it is there, its content is judged. -/
def Machine.Offers (m : Machine) (read : Entries → Except Problem α) (p : Path) : Prop :=
  ∃ content, (Machine.load p m).outcome = .ok content ∧
    ∀ bytes, content = some bytes → Document.IsJudged read (m.parse bytes)

theorem Machine.outcome_load (p : Path) (m : Machine) : (Machine.load p m).outcome =
    (m.files.has m.folder p).mapError Failure.fault >>= fun there =>
      if there then ((m.files.read m.folder p).mapError Failure.fault).map some else .ok none := by
  rw [Machine.load, Action.bind_eq, Action.bind_of_ok rfl]
  dsimp only [Action.look]
  rw [Action.bind_eq, Action.outcome_bind]
  congr 1
  funext there
  cases there with
  | false => rfl
  | true => cases m.files.read m.folder p <;> rfl

theorem Machine.fault_of_load_error {f : Failure} (h : (Machine.load p m).outcome = .error f) :
    ∃ fault, f = .fault fault := by
  rw [outcome_load] at h
  cases hhas : m.files.has m.folder p with
  | error fault =>
    rw [hhas] at h
    cases h
    exact ⟨fault, rfl⟩
  | ok there =>
    rw [hhas] at h
    cases there with
    | false => cases h
    | true =>
      cases hread : m.files.read m.folder p with
      | error fault =>
        rw [hread] at h
        cases h
        exact ⟨fault, rfl⟩
      | ok bytes =>
        rw [hread] at h
        cases h

theorem settled_loading_iff : Settled (Document.loading read p m) ↔ m.Offers read p := by
  rw [Document.loading, Machine.Offers]
  cases hcontent : (Machine.load p m).outcome with
  | error f =>
    -- What the disk fails with is no problem of a document.
    obtain ⟨fault, rfl⟩ := Machine.fault_of_load_error hcontent
    exact iff_of_false (by simp [Settled, bind, Except.bind]) (by simp)
  | ok content =>
    cases content with
    | none => exact iff_of_true (.inr ⟨_, rfl⟩) ⟨none, rfl, nofun⟩
    | some bytes => exact Document.settled_entries_iff.trans (by simp)

theorem outcome_loadCatalog (p : Path) (m : Machine) :
    (loadCatalog p m).outcome = Document.loading Catalog.ofEntries p m :=
  Document.outcome_loading Catalog.ofEntries _ p m

theorem outcome_loadConfiguration (p : Path) (m : Machine) :
    (loadConfiguration p m).outcome = Document.loading Configuration.ofEntries p m :=
  Document.outcome_loading Configuration.ofEntries _ p m

theorem outcome_loadSnapshot (p : Path) (m : Machine) :
    (loadSnapshot p m).outcome = Document.loading Snapshot.ofEntries p m :=
  Document.outcome_loading Snapshot.ofEntries _ p m

end Documents

/-! ## Inspections -/

namespace Inspection

variable {m : Machine} {config catalog : Path} {verbose : Bool}

section Caught

variable {α β : Type} {x : Action Machine α} (f : Except Problem α → Action Machine β)

theorem outcome_caught_bind_of_problem {p : Problem} (h : (x m).outcome = .error (.problem p))
    (hx : (x m).machine = m) :
    ((caught x).bind f m).outcome = (f (.error p) m).outcome := by
  have hcaught : caught x m = ⟨.ok (.error p), m, (x m).journal⟩ := by
    simp [caught, Action.attempt, Action.bind, h, hx]
  rw [Action.bind_of_ok (congrArg Turn.outcome hcaught), hcaught]

theorem outcome_caught_bind_of_failure {e : Failure} (h : (x m).outcome = .error e)
    (he : ∀ p, e ≠ .problem p) : ((caught x).bind f m).outcome = .error e := by
  have hcaught : (caught x m).outcome = .error e := by
    cases e with
    | problem p => exact absurd rfl (he p)
    | _ => simp [caught, Action.attempt, Action.bind, h, Action.fail]
  rw [Action.bind_of_error hcaught]

end Caught

theorem inspectFiles_of_catalogRefused {p : Problem}
    (h : (loadCatalog catalog m).outcome = .error (.problem p)) :
    (inspectFiles config catalog verbose m).outcome = .ok ⟨[.catalogRefused p], 0, config⟩ := by
  simp only [inspectFiles, Action.bind_eq]
  rw [outcome_narrate_bind, outcome_caught_bind_of_problem _ h (machine_loadCatalog catalog m)]
  exact outcome_conclude _

theorem inspectFiles_of_catalogFailed {e : Failure} (h : (loadCatalog catalog m).outcome = .error e)
    (he : ∀ p, e ≠ .problem p) : (inspectFiles config catalog verbose m).outcome = .error e := by
  simp only [inspectFiles, Action.bind_eq]
  rw [outcome_narrate_bind, outcome_caught_bind_of_failure _ h he]

theorem inspectFiles_of_configurationRefused {c : Catalog} {p : Problem}
    (hc : (loadCatalog catalog m).outcome = .ok c)
    (h : (loadConfiguration config m).outcome = .error (.problem p)) :
    (inspectFiles config catalog verbose m).outcome =
      .ok ⟨[.configurationRefused p], 0, config⟩ := by
  simp only [inspectFiles, Action.bind_eq]
  rw [outcome_narrate_bind, outcome_caught_bind hc (machine_loadCatalog catalog m)]
  dsimp only
  rw [outcome_narrate_bind,
    outcome_caught_bind_of_problem _ h (machine_loadConfiguration config m)]
  exact outcome_conclude _

theorem inspectFiles_of_configurationFailed {c : Catalog} {e : Failure}
    (hc : (loadCatalog catalog m).outcome = .ok c)
    (h : (loadConfiguration config m).outcome = .error e) (he : ∀ p, e ≠ .problem p) :
    (inspectFiles config catalog verbose m).outcome = .error e := by
  simp only [inspectFiles, Action.bind_eq]
  rw [outcome_narrate_bind, outcome_caught_bind hc (machine_loadCatalog catalog m)]
  dsimp only
  rw [outcome_narrate_bind, outcome_caught_bind_of_failure _ h he]

end Inspection

/-- An inspection ends, and a document that is refused is the one error that it reports. -/
structure InspectsAsDeclared (m : Machine) (config catalog : Path) (verbose : Bool) : Prop where
  ends : ∃ i, (inspectFiles config catalog verbose m).outcome = .ok i
  catalogRefused : ∀ i p, (inspectFiles config catalog verbose m).outcome = .ok i →
    (loadCatalog catalog m).outcome = .error (.problem p) → i.errors = ["Catalog: " ++ p.message]
  configurationRefused : ∀ i c p, (inspectFiles config catalog verbose m).outcome = .ok i →
    (loadCatalog catalog m).outcome = .ok c →
      (loadConfiguration config m).outcome = .error (.problem p) →
        i.errors = ["Configuration: " ++ p.message]

/-- Nothing but a refusal ends the reading of the two documents, and what is found about them can be
worded. -/
structure Inspectable (m : Machine) (config catalog : Path) : Prop where
  catalogSettled : Settled (loadCatalog catalog m).outcome
  configurationSettled : ∀ c, (loadCatalog catalog m).outcome = .ok c →
    Settled (loadConfiguration config m).outcome
  findings : ∀ c choices, (loadCatalog catalog m).outcome = .ok c →
    (loadConfiguration config m).outcome = .ok choices →
      ∀ f ∈ Inspection.ofDocuments c choices, f.isWritable = true

section Inspections

variable {m : Machine} {config catalog : Path} {verbose : Bool}

theorem exists_failure_of_not_settled {α : Type} {r : Except Failure α} (h : ¬ Settled r) :
    ∃ e, r = .error e ∧ ∀ p, e ≠ .problem p := by
  cases r with
  | ok a => exact absurd (.inl ⟨a, rfl⟩) h
  | error e => exact ⟨e, rfl, fun p he => h (.inr ⟨p, he ▸ rfl⟩)⟩

theorem inspectable_of_ends (h : ∃ i, (inspectFiles config catalog verbose m).outcome = .ok i) :
    Inspectable m config catalog := by
  obtain ⟨i, hi⟩ := h
  refine ⟨?_, fun c hc => ?_, fun c choices hc hchoices => ?_⟩
  · by_contra hno
    obtain ⟨e, he, hproblem⟩ := exists_failure_of_not_settled hno
    rw [Inspection.inspectFiles_of_catalogFailed he hproblem] at hi
    cases hi
  · by_contra hno
    obtain ⟨e, he, hproblem⟩ := exists_failure_of_not_settled hno
    rw [Inspection.inspectFiles_of_configurationFailed hc he hproblem] at hi
    cases hi
  · rw [inspectFiles_of_loaded hc hchoices] at hi
    split at hi
    · exact List.all_eq_true.mp ‹_›
    · cases hi

theorem ends_of_inspectable (h : Inspectable m config catalog) :
    ∃ i, (inspectFiles config catalog verbose m).outcome = .ok i := by
  obtain ⟨c, hc⟩ | ⟨p, hp⟩ := h.catalogSettled
  · obtain ⟨choices, hchoices⟩ | ⟨p, hp⟩ := h.configurationSettled c hc
    · exact ⟨_, (inspectFiles_of_loaded hc hchoices).trans
        (if_pos (List.all_eq_true.mpr (h.findings c choices hc hchoices)))⟩
    · exact ⟨_, Inspection.inspectFiles_of_configurationRefused hc hp⟩
  · exact ⟨_, Inspection.inspectFiles_of_catalogRefused hp⟩

theorem inspectsAsDeclared_iff :
    InspectsAsDeclared m config catalog verbose ↔ Inspectable m config catalog := by
  refine ⟨fun h => inspectable_of_ends h.ends, fun h => ⟨ends_of_inspectable h, ?_, ?_⟩⟩
  · intro i p hi hp
    rw [Inspection.inspectFiles_of_catalogRefused hp] at hi
    cases hi
    rfl
  · intro i c p hi hc hp
    rw [Inspection.inspectFiles_of_configurationRefused hc hp] at hi
    cases hi
    rfl

end Inspections

/-! ## Questions to the machine -/

/-- The program ran and what it wrote is known, it was not there, or it took too long. -/
def Ending.IsOrdinary (e : Ending) : Prop :=
  (∀ reason, e ≠ .refused reason) ∧ ∀ fault, e ≠ .broken fault

/-- What a command that has to end with status zero comes to, by how its start ends. -/
def Machine.outputOf (command : List String) (limit : Int) :
    Ending → Except Failure (Except CommandFailure String)
  | .finished output _ status =>
    .ok (if status = 0 then .ok output else .error (.exitStatus command status))
  | .notFound reason => .ok (.error (.notFound reason))
  | .timedOut => .ok (.error (.timedOut command limit))
  | .refused _ => .error (.fault .other)
  | .broken fault => .error fault.failure

theorem Machine.outcome_output (command : List String) (limit : Int) (m : Machine) :
    (Machine.output command limit m).outcome =
      outputOf command limit (m.ending m.launches ⟨command, limit, none⟩) := by
  rw [Machine.output, Action.bind_eq, Action.bind_of_ok rfl]
  dsimp only [Machine.launch]
  cases m.ending m.launches ⟨command, limit, none⟩ <;> rfl

namespace LiveServices

open Machine (outputOf)

/-- The command that counts the batteries. -/
def batteryCommand (t : Tool) : List String :=
  [t.executable, "-NoProfile", "-NonInteractive", "-Command", batteryQuery]

/-- How a command ends on a machine. -/
def endingOf (m : Machine) (command : List String) (t : Tool) : Ending :=
  m.ending m.launches ⟨command, t.limit, none⟩

/-- A query ended well with a number of batteries above zero. -/
def CountsBatteries (e : Ending) : Prop :=
  ∃ output errors n, e = .finished output errors 0 ∧
    batteryCount? (Text.trim output) = some n ∧ 0 < n

/-- It is found out whether there is a battery; a query that fails counts as none. -/
def FindsBattery (m : Machine) (t : Tool) : Prop :=
  ∃ b, (hasBattery t m).outcome = .ok b ∧
    (b = true ↔ CountsBatteries (endingOf m (batteryCommand t) t))

variable {m : Machine} {t : Tool}

/-- What `powercfg` ends with, by how its start ends. -/
def powerOutcome (t : Tool) (arguments : List String) : Ending → Except Failure String
  | .finished output _ status =>
    if status = 0 then .ok output else .error (.breakdown (.exitStatus arguments status))
  | .notFound _ => .error (.breakdown (.executableMissing t.executable))
  | .timedOut => .error (.breakdown (.timedOut arguments t.limit))
  | .refused _ => .error (.fault .other)
  | .broken fault => .error fault.failure

theorem outcome_powerOutput (t : Tool) (arguments : List String) (m : Machine) :
    (powerOutput t arguments m).outcome =
      powerOutcome t arguments (endingOf m (t.executable :: arguments) t) := by
  rw [powerOutput, Action.bind_eq, Action.bind_of_ok rfl]
  dsimp only [Action.report]
  rw [Action.bind_eq, Action.outcome_bind, Machine.outcome_output]
  rw [endingOf]
  cases m.ending m.launches ⟨t.executable :: arguments, t.limit, none⟩ with
  | finished output errors status =>
    dsimp only [outputOf, powerOutcome]
    split <;> rfl
  | _ => rfl

theorem answered_powerOutcome_iff {arguments : List String} {e : Ending} :
    Answered (powerOutcome t arguments e) ↔ e.IsOrdinary := by
  cases e with
  | finished output errors status =>
    refine iff_of_true ?_ ⟨nofun, nofun⟩
    rw [powerOutcome]
    by_cases hstatus : status = 0
    · exact .inl ⟨output, if_pos hstatus⟩
    · exact .inr ⟨_, if_neg hstatus⟩
  | notFound reason => exact iff_of_true (.inr ⟨_, rfl⟩) ⟨nofun, nofun⟩
  | timedOut => exact iff_of_true (.inr ⟨_, rfl⟩) ⟨nofun, nofun⟩
  | refused reason => exact iff_of_false (by simp [Answered, powerOutcome]) fun h => h.1 reason rfl
  | broken fault =>
    refine iff_of_false ?_ fun h => h.2 fault rfl
    cases fault <;> simp [Answered, powerOutcome, LaunchFault.failure]

/-- What is made of an answer changes nothing about whether there is one. -/
theorem answered_bind_ok_iff {α β : Type} {r : Except Failure α} {f : α → β} :
    Answered (r >>= fun a => .ok (f a)) ↔ Answered r := by
  cases r <;> simp [Answered, bind, Except.bind]

theorem answered_activePlan_iff : Answered (activePlan t m).outcome ↔
    (endingOf m [t.executable, "/getactivescheme"] t).IsOrdinary := by
  rw [activePlan, Action.bind_eq, Action.outcome_bind, outcome_powerOutput,
    ← answered_powerOutcome_iff]
  exact answered_bind_ok_iff

theorem answered_readings_iff {plan : String} : Answered (readings t plan m).outcome ↔
    (endingOf m [t.executable, "/qh", plan] t).IsOrdinary := by
  rw [readings, Action.bind_eq, Action.outcome_bind, outcome_powerOutput,
    ← answered_powerOutcome_iff]
  exact answered_bind_ok_iff

/-- Whether there is a battery, by how the start of the query ends. -/
def batteryOutcome : Ending → Except Failure Bool
  | .finished output _ status =>
    .ok (decide (status = 0) && (batteryCount? (Text.trim output)).any (0 < ·))
  | .refused _ => .error (.fault .other)
  | .broken fault => .error fault.failure
  | _ => .ok false

theorem outcome_hasBattery (t : Tool) (m : Machine) :
    (hasBattery t m).outcome = batteryOutcome (endingOf m (batteryCommand t) t) := by
  rw [hasBattery, Action.bind_eq, Action.outcome_bind]
  dsimp only
  rw [Machine.outcome_output, endingOf, batteryCommand]
  cases m.ending m.launches
    ⟨[t.executable, "-NoProfile", "-NonInteractive", "-Command", batteryQuery], t.limit, none⟩ with
  | finished output errors status =>
    by_cases hstatus : status = 0
    · rw [outputOf, batteryOutcome, if_pos hstatus, decide_eq_true hstatus, Bool.true_and]
      cases hcount : batteryCount? (Text.trim output) <;>
        simp only [bind, Except.bind, hcount] <;> rfl
    · rw [outputOf, batteryOutcome, if_neg hstatus, decide_eq_false hstatus, Bool.false_and]
      rfl
  | _ => rfl

theorem findsBattery_iff :
    FindsBattery m t ↔ (endingOf m (batteryCommand t) t).IsOrdinary := by
  rw [FindsBattery, outcome_hasBattery]
  cases endingOf m (batteryCommand t) t with
  | finished output errors status =>
    refine iff_of_true ⟨_, rfl, ?_⟩ ⟨nofun, nofun⟩
    simp [CountsBatteries, Option.any_eq_true]
  | notFound reason =>
    exact iff_of_true ⟨false, rfl, by simp [CountsBatteries]⟩ ⟨nofun, nofun⟩
  | timedOut => exact iff_of_true ⟨false, rfl, by simp [CountsBatteries]⟩ ⟨nofun, nofun⟩
  | refused reason => exact iff_of_false (by simp [batteryOutcome]) fun h => h.1 reason rfl
  | broken fault => exact iff_of_false (by simp [batteryOutcome]) fun h => h.2 fault rfl

end LiveServices

/-! ## All of them -/

section All

variable {m : Machine} {catalog config snapshot : Path} {l : LiveServices} {plan : String}
  {verbose : Bool}

/-- Documents are read or refused, an inspection reports what is refused, and the questions to the
machine are answered or fail as questions do. -/
structure EndsAsDeclared (m : Machine) (catalog config snapshot : Path) (l : LiveServices)
    (plan : String) (verbose : Bool) : Prop where
  catalogSettled : Settled (loadCatalog catalog m).outcome
  configurationSettled : Settled (loadConfiguration config m).outcome
  snapshotSettled : Settled (loadSnapshot snapshot m).outcome
  inspects : InspectsAsDeclared m config catalog verbose
  planAnswered : Answered (LiveServices.activePlan l.power m).outcome
  readingsAnswered : Answered (LiveServices.readings l.power plan m).outcome
  batteryFound : LiveServices.FindsBattery m l.hardware

/-- What is in the files is read or refused in words, what is found in it can be worded, and the
programs for the questions end in an ordinary way. -/
structure Foreseen (m : Machine) (catalog config snapshot : Path) (l : LiveServices)
    (plan : String) : Prop where
  catalogOffered : m.Offers Catalog.ofEntries catalog
  configurationOffered : m.Offers Configuration.ofEntries config
  snapshotOffered : m.Offers Snapshot.ofEntries snapshot
  findings : ∀ c choices, (loadCatalog catalog m).outcome = .ok c →
    (loadConfiguration config m).outcome = .ok choices →
      ∀ f ∈ Inspection.ofDocuments c choices, f.isWritable = true
  planStarted :
    (LiveServices.endingOf m [l.power.executable, "/getactivescheme"] l.power).IsOrdinary
  readingsStarted :
    (LiveServices.endingOf m [l.power.executable, "/qh", plan] l.power).IsOrdinary
  batteryStarted :
    (LiveServices.endingOf m (LiveServices.batteryCommand l.hardware) l.hardware).IsOrdinary

theorem settled_loadCatalog_iff :
    Settled (loadCatalog catalog m).outcome ↔ m.Offers Catalog.ofEntries catalog := by
  rw [outcome_loadCatalog, settled_loading_iff]

theorem settled_loadConfiguration_iff :
    Settled (loadConfiguration config m).outcome ↔ m.Offers Configuration.ofEntries config := by
  rw [outcome_loadConfiguration, settled_loading_iff]

theorem settled_loadSnapshot_iff :
    Settled (loadSnapshot snapshot m).outcome ↔ m.Offers Snapshot.ofEntries snapshot := by
  rw [outcome_loadSnapshot, settled_loading_iff]

theorem endsAsDeclared_of_foreseen (h : Foreseen m catalog config snapshot l plan) :
    EndsAsDeclared m catalog config snapshot l plan verbose where
  catalogSettled := settled_loadCatalog_iff.mpr h.catalogOffered
  configurationSettled := settled_loadConfiguration_iff.mpr h.configurationOffered
  snapshotSettled := settled_loadSnapshot_iff.mpr h.snapshotOffered
  inspects := inspectsAsDeclared_iff.mpr ⟨settled_loadCatalog_iff.mpr h.catalogOffered,
    fun _ _ => settled_loadConfiguration_iff.mpr h.configurationOffered, h.findings⟩
  planAnswered := LiveServices.answered_activePlan_iff.mpr h.planStarted
  readingsAnswered := LiveServices.answered_readings_iff.mpr h.readingsStarted
  batteryFound := LiveServices.findsBattery_iff.mpr h.batteryStarted

/-- **Reading and asking end as they should** exactly if what is read of the files is a document or
the finding that there is none, what is refused in it or found about it can be worded, and the
programs for the questions end in an ordinary way. What reads documents may be anything. -/
theorem endsAsDeclared_iff : EndsAsDeclared m catalog config snapshot l plan verbose ↔
    Foreseen m catalog config snapshot l plan := by
  refine ⟨fun h => ?_, endsAsDeclared_of_foreseen⟩
  exact {
    catalogOffered := settled_loadCatalog_iff.mp h.catalogSettled
    configurationOffered := settled_loadConfiguration_iff.mp h.configurationSettled
    snapshotOffered := settled_loadSnapshot_iff.mp h.snapshotSettled
    findings := (inspectsAsDeclared_iff.mp h.inspects).findings
    planStarted := LiveServices.answered_activePlan_iff.mp h.planAnswered
    readingsStarted := LiveServices.answered_readings_iff.mp h.readingsAnswered
    batteryStarted := LiveServices.findsBattery_iff.mp h.batteryFound }

/-- A path leads to a document without long numbers, to a malformed one, or to nothing. -/
def Machine.HoldsFewDigits (m : Machine) (p : Path) : Prop :=
  ∃ content, (Machine.load p m).outcome = .ok content ∧ ∀ bytes, content = some bytes →
    (∀ f, m.parse bytes = .error f → f = .malformed) ∧
      ∀ v, m.parse bytes = .ok v → v.FewDigits

section FewDigits

variable {α : Type} {read : Entries → Except Problem α} {P : α → Prop} {p : Path}

theorem offers_of_fewDigits (hread : ∀ es : Entries, es.FewDigits → Yields (read es) P)
    (h : m.HoldsFewDigits p) : m.Offers read p := by
  obtain ⟨content, hcontent, hfew⟩ := h
  refine ⟨content, hcontent, fun bytes hbytes => ⟨(hfew bytes hbytes).1, fun v es hv hes => ?_⟩⟩
  have hopened := ((hfew bytes hbytes).2 v hv).opened
  exact (hread es (Value.FewDigits.entries (hes ▸ hopened))).worded

theorem holds_of_loading (hread : ∀ es : Entries, es.FewDigits → Yields (read es) P)
    (h : m.HoldsFewDigits p) {a : α} (ha : Document.loading read p m = .ok a) : P a := by
  obtain ⟨content, hcontent, hfew⟩ := h
  rw [Document.loading, hcontent] at ha
  cases content with
  | none => cases ha
  | some bytes =>
    obtain ⟨_, hbytes, ha⟩ := Except.exists_of_bind_ok ha
    cases hbytes
    obtain ⟨es, hes, ha⟩ := Except.exists_of_bind_ok ha
    unfold Document.entries at hes
    split at hes
    · cases hes
    · rename_i v hv
      split at hes
      · cases hes
      · rename_i es' hopened
        cases hes
        have hfew := ((hfew bytes rfl).2 v hv).opened
        rw [hopened] at hfew
        exact (hread es hfew.entries).holds a (Except.mapError_ok_iff.mp ha)
      · cases hes

end FewDigits

/-- **Documents without long numbers are dealt with as declared**, where programs end in an ordinary
way. -/
theorem endsAsDeclared_of_fewDigits (hcatalog : m.HoldsFewDigits catalog)
    (hconfig : m.HoldsFewDigits config) (hsnapshot : m.HoldsFewDigits snapshot)
    (hstarted : ∀ launch, (m.ending m.launches launch).IsOrdinary) :
    EndsAsDeclared m catalog config snapshot l plan verbose := by
  refine endsAsDeclared_of_foreseen ?_
  exact {
    catalogOffered := offers_of_fewDigits (fun _ => Catalog.yields_ofEntries) hcatalog
    configurationOffered := offers_of_fewDigits (fun _ => Configuration.yields_ofEntries) hconfig
    snapshotOffered := offers_of_fewDigits (fun _ => Snapshot.yields_ofEntries) hsnapshot
    findings := fun _ choices _ hchoices _ hf => by
      rw [outcome_loadConfiguration] at hchoices
      have hfit := holds_of_loading (fun _ => Configuration.yields_ofEntries) hconfig hchoices
      exact Inspection.isWritable_of_mem_ofDocuments hfit hf
    planStarted := hstarted _
    readingsStarted := hstarted _
    batteryStarted := hstarted _ }

end All

/-! ## Other ends -/

/-- A machine with a catalogue of given bytes, on which every start ends in the same way. -/
def Machine.barred (catalog : List UInt8) (e : Ending) : Machine where
  files := ⟨[(catalogFile.names, .file catalog)]⟩
  folder := []
  scratch := ""
  isWindows := false
  programs := []
  ending _ _ := e
  launches := []

/-- Why there is no document, if there is none. -/
def Document.fault? : Except Document.DocumentFault Value → Option Document.DocumentFault
  | .ok _ => none
  | .error f => some f

theorem Document.eq_error_of_fault? {r : Except Document.DocumentFault Value}
    {f : Document.DocumentFault} (h : fault? r = some f) : r = .error f := by
  cases r with
  | ok v => cases h
  | error g => exact congrArg Except.error (Option.some.inj h)

theorem ofFile_byte : Document.ofFile [0xFF] = .error .undecodable :=
  Document.eq_error_of_fault? (by decide +kernel)

theorem ofFile_day : Document.ofFile (Text.encodeUtf8 "a: 2024-13-45") =
    .error (.misfit .wrongContent) := Document.eq_error_of_fault? (by decide +kernel)

theorem load_barred (bytes : List UInt8) (e : Ending) :
    (Machine.load catalogFile (.barred bytes e)).outcome = .ok (some bytes) := rfl

/-- A fault other than that there is no document is no refusal. -/
theorem not_settled_of_fault {bytes : List UInt8} {f : Document.DocumentFault} (e : Ending)
    (h : Document.ofFile bytes = .error f) (hf : f ≠ .malformed) :
    ¬ Settled (loadCatalog catalogFile (.barred bytes e)).outcome := by
  rw [settled_loadCatalog_iff]
  rintro ⟨content, hcontent, hjudged⟩
  rw [load_barred] at hcontent
  exact hf ((hjudged bytes (Except.ok.inj hcontent).symm).fault f h)

/-- **Bytes that are no text and days that are in no calendar are not refused but break off the
reading, also in an inspection; and where a program may not be started, what it wrote is no text, or
its command holds the null character, the questions break off.** -/
theorem not_endsAsDeclared_barred :
    ¬ Settled (loadCatalog catalogFile (.barred [0xFF] .timedOut)).outcome ∧
      ¬ Settled
        (loadCatalog catalogFile (.barred (Text.encodeUtf8 "a: 2024-13-45") .timedOut)).outcome ∧
      ¬ InspectsAsDeclared (.barred [0xFF] .timedOut) configFile catalogFile false ∧
      ∀ e ∈ [Ending.refused "barred", .broken .undecodable, .broken .nullCharacter],
        ¬ Answered (LiveServices.activePlan LiveServices.powerTool (.barred [] e)).outcome ∧
          ¬ Answered (LiveServices.readings LiveServices.powerTool "plan" (.barred [] e)).outcome ∧
          ¬ LiveServices.FindsBattery (.barred [] e)
            (LiveServices.hardwareTool LiveServices.powerShell) := by
  have hbyte := not_settled_of_fault .timedOut ofFile_byte (by decide)
  refine ⟨hbyte, not_settled_of_fault .timedOut ofFile_day (by decide), ?_, fun e he => ?_⟩
  · rw [inspectsAsDeclared_iff]
    exact fun h => hbyte h.catalogSettled
  · have hodd : ¬ e.IsOrdinary := by
      rintro ⟨hrefused, hbroken⟩
      simp only [List.mem_cons, List.not_mem_nil, or_false] at he
      rcases he with rfl | rfl | rfl
      · exact hrefused "barred" rfl
      · exact hbroken .undecodable rfl
      · exact hbroken .nullCharacter rfl
    rw [LiveServices.answered_activePlan_iff, LiveServices.answered_readings_iff,
      LiveServices.findsBattery_iff]
    exact ⟨hodd, hodd, hodd⟩

end Provision
