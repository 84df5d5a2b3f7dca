import Provision.Compilation.Basic
import Provision.Proofs.Report

/-!
# The course of a compilation

* `Services.noted`, `Checker.noted`: services and a checker whose exchanges with the compilation are
  taken down: every call, what came back, and what was reported meanwhile.
* `Course`: which exchanges a compilation makes, in which order, and how it ends.
* `Action.Follows`: every run of some work makes exchanges and ends as a relation says.
* **`compile_follows`**: every compilation takes such a course, and reports its success once exactly
  if it ends well.
* `Action.Forgets`, **`compile_forgets`**: nothing else changes when exchanges are taken down.
-/

namespace Provision

/-! ## Exchanges -/

/-- What came back from a call. -/
inductive Answer where
  | plan (plan? : Option Plan)
  | readings (rs : Readings)
  | battery (b : Bool)
  | accepted
  | raised (f : Failure)

/-- A call, what came back, and what was reported meanwhile. -/
structure Exchange where
  call : Call
  answer : Answer
  journal : List Entry

/-- What came back from a call that ended in some way. -/
def Answer.of {α : Type} (answer : α → Answer) : Except Failure α → Answer
  | .ok a => answer a
  | .error f => .raised f

/-- Work that is taken down as an exchange. -/
def Action.noted {σ α : Type} (call : Call) (answer : α → Answer) (x : Action σ α) :
    Action (σ × List Exchange) α := fun s =>
  let t := x s.1
  ⟨t.outcome, (t.machine, s.2 ++ [⟨call, .of answer t.outcome, t.journal⟩]), t.journal⟩

/-- Services whose exchanges are taken down. -/
def Services.noted {σ : Type} (services : Services σ) : Services (σ × List Exchange) where
  activePlan := .noted .activePlan .plan services.activePlan
  readings guid := .noted (.readings guid) .readings (services.readings guid)
  hasBattery := .noted .hasBattery .battery services.hasBattery

/-- A checker whose exchanges are taken down. -/
def Checker.noted {σ : Type} (checker : Checker σ) : Checker (σ × List Exchange) := fun script =>
  .noted (.check script) (fun _ => .accepted) (checker script)

/-! ## The course -/

/-- The exchanges about the active plan: its readings are asked for once there is one. -/
inductive PowerAsked : List Exchange → Except Failure (Option Plan × Readings) → Prop where
  | planRaised (f : Failure) (j : List Entry) :
    PowerAsked [⟨.activePlan, .raised f, j⟩] (.error f)
  | noPlan (j : List Entry) : PowerAsked [⟨.activePlan, .plan none, j⟩] (.ok (none, []))
  | readingsRaised (plan : Plan) (f : Failure) (j j' : List Entry) :
    PowerAsked [⟨.activePlan, .plan (some plan), j⟩, ⟨.readings plan.guid, .raised f, j'⟩]
      (.error f)
  | answered (plan : Plan) (rs : Readings) (j j' : List Entry) :
    PowerAsked [⟨.activePlan, .plan (some plan), j⟩, ⟨.readings plan.guid, .readings rs, j'⟩]
      (.ok (some plan, rs))

/-- The exchanges with the services: the battery comes last. -/
inductive SnapshotAsked : List Exchange → Except Failure Snapshot → Prop where
  | powerRaised {xs : List Exchange} {f : Failure} (h : PowerAsked xs (.error f)) :
    SnapshotAsked xs (.error f)
  | batteryRaised {xs : List Exchange} {power : Option Plan × Readings}
    (h : PowerAsked xs (.ok power)) (f : Failure) (j : List Entry) :
    SnapshotAsked (xs ++ [⟨.hasBattery, .raised f, j⟩]) (.error f)
  | answered {xs : List Exchange} {plan : Option Plan} {rs : Readings}
    (h : PowerAsked xs (.ok (plan, rs))) (b : Bool) (j : List Entry) :
    SnapshotAsked (xs ++ [⟨.hasBattery, .battery b, j⟩]) (.ok ⟨plan, rs, b⟩)

/-- The exchanges of a compilation, up to the first call that fails, and how it ends; `checks` says
whether there is a checker. -/
inductive Course (catalog : Catalog) (config : Configuration) (checks : Bool) :
    List Exchange → Except Failure Compilation → Prop where
  | serviceRaised {xs : List Exchange} {f : Failure} (h : SnapshotAsked xs (.error f)) :
    Course catalog config checks xs (.error f)
  | notAssembled {xs : List Exchange} {s : Snapshot} {f : Failure}
    (h : SnapshotAsked xs (.ok s))
    (hf : ((Assembler.ofCatalog catalog).assemble config s).outcome = .error f) :
    Course catalog config checks xs (.error f)
  | unchecked {xs : List Exchange} {s : Snapshot} {c : Compilation}
    (h : SnapshotAsked xs (.ok s))
    (hc : ((Assembler.ofCatalog catalog).assemble config s).outcome = .ok c.script)
    (hchecks : checks = false) (hvalidated : c.validated = false) :
    Course catalog config checks xs (.ok c)
  | refused {xs : List Exchange} {s : Snapshot} {script : String}
    (h : SnapshotAsked xs (.ok s))
    (hscript : ((Assembler.ofCatalog catalog).assemble config s).outcome = .ok script)
    (hchecks : checks = true) (f : Failure) (j : List Entry) :
    Course catalog config checks (xs ++ [⟨.check script, .raised f, j⟩]) (.error f)
  | accepted {xs : List Exchange} {s : Snapshot} {c : Compilation}
    (h : SnapshotAsked xs (.ok s))
    (hc : ((Assembler.ofCatalog catalog).assemble config s).outcome = .ok c.script)
    (hchecks : checks = true) (hvalidated : c.validated = true) (j : List Entry) :
    Course catalog config checks (xs ++ [⟨.check c.script, .accepted, j⟩]) (.ok c)

theorem Course.validated {catalog : Catalog} {config : Configuration} {checks : Bool}
    {xs : List Exchange} {c : Compilation} (h : Course catalog config checks xs (.ok c)) :
    c.validated = checks := by
  cases h with
  | unchecked _ _ hchecks hvalidated => rw [hvalidated, hchecks]
  | accepted _ _ hchecks hvalidated => rw [hvalidated, hchecks]

/-! ## Reports of success -/

/-- How often a journal reports that a script was compiled. -/
def successes (journal : List Entry) : Nat := journal.count Notice.compiled.entry

/-- How often that is reported during exchanges. -/
def successesDuring (xs : List Exchange) : Nat := successes (xs.flatMap Exchange.journal)

@[simp] theorem successes_nil : successes [] = 0 := rfl

@[simp] theorem successes_append (j j' : List Entry) :
    successes (j ++ j') = successes j + successes j' := List.count_append

@[simp] theorem successesDuring_append (xs ys : List Exchange) :
    successesDuring (xs ++ ys) = successesDuring xs + successesDuring ys := by
  simp [successesDuring]

/-- Entries that are not warnings all pass a collector. -/
theorem Collector.successes_recordAll (c : Collector) (es : List Entry) :
    successes (c.recordAll es).2 = successes es := by
  induction es generalizing c with
  | nil => rfl
  | cons e es ih =>
    have hone : successes (c.record e).2 = successes [e] := by
      unfold record
      split
      · simp only
        split
        · simp [successes, Notice.entry]
        · rfl
      · rfl
      · rfl
    rw [show e :: es = [e] ++ es from rfl, recordAll_append, successes_append, successes_append, ih,
      ← hone]
    simp [recordAll]

/-- The notice reports that a script was compiled. -/
def Notice.isSuccess : Notice → Bool
  | compiled => true
  | _ => false

theorem Notice.entry_ne {n : Notice} (h : n.isSuccess = false) :
    n.entry ≠ Notice.compiled.entry := by
  cases n
  case scriptWritten path =>
    intro heq
    obtain ⟨-, -, hmessage⟩ := Entry.note.inj heq
    have hfirst := congrArg (fun message => message.toList.head?) hmessage
    simp at hfirst
  all_goals simp_all [isSuccess, entry]

theorem successes_eq_zero {notices : List Notice} (h : ∀ n ∈ notices, n.isSuccess = false) :
    successes (notices.map Notice.entry) = 0 := by
  rw [successes, List.count_eq_zero, List.mem_map]
  rintro ⟨n, hn, heq⟩
  exact Notice.entry_ne (h n hn) heq

/-! ## Work that follows a relation -/

namespace Action

variable {σ α β : Type}

/-- Every run of the work makes exchanges, reports a number of successes besides, and ends, in a way
that the relation allows. -/
def Follows (x : Action (Watched (σ × List Exchange)) α)
    (R : List Exchange → Nat → Except Failure α → Prop) : Prop :=
  ∀ w, ∃ xs n, (x w).machine.machine.2 = w.machine.2 ++ xs ∧
    successes (x w).journal = successesDuring xs + n ∧ R xs n (x w).outcome

namespace Follows

variable {R : List Exchange → Nat → Except Failure α → Prop}

/-- Work in two parts makes the exchanges of the first part, and then those of the second unless the
first failed. -/
theorem bind {x : Action (Watched (σ × List Exchange)) α}
    {f : α → Action (Watched (σ × List Exchange)) β}
    {S : α → List Exchange → Nat → Except Failure β → Prop}
    {T : List Exchange → Nat → Except Failure β → Prop} (hx : x.Follows R)
    (hf : ∀ a, (f a).Follows (S a)) (herror : ∀ xs n e, R xs n (.error e) → T xs n (.error e))
    (hok : ∀ xs n a ys k r, R xs n (.ok a) → S a ys k r → T (xs ++ ys) (n + k) r) :
    (x.bind f).Follows T := by
  intro w
  obtain ⟨xs, n, hnoted, hcount, hR⟩ := hx w
  cases hout : (x w).outcome with
  | error e =>
    rw [bind_of_error hout]
    exact ⟨xs, n, hnoted, hcount, herror xs n e (hout ▸ hR)⟩
  | ok a =>
    obtain ⟨ys, k, hnoted', hcount', hS⟩ := hf a (x w).machine
    rw [bind_of_ok hout]
    refine ⟨xs ++ ys, n + k, ?_, ?_, hok xs n a ys k _ (hout ▸ hR) hS⟩
    · rw [hnoted', hnoted, List.append_assoc]
    · rw [successes_append, hcount, hcount', successesDuring_append]
      omega

theorem silent {x : Action (Watched (σ × List Exchange)) α} {Q : Except Failure α → Prop}
    (hx : ∀ w, (x w).machine.machine = w.machine ∧ successes (x w).journal = 0 ∧
      Q (x w).outcome) : x.Follows fun xs n r => xs = [] ∧ n = 0 ∧ Q r := by
  intro w
  obtain ⟨hmachine, hcount, hQ⟩ := hx w
  exact ⟨[], 0, by simp [hmachine], by simp [hcount, successesDuring], rfl, rfl, hQ⟩

theorem pure (a : α) : (Pure.pure a : Action (Watched (σ × List Exchange)) α).Follows
    fun xs n r => xs = [] ∧ n = 0 ∧ r = .ok a := silent fun _ => ⟨rfl, rfl, rfl⟩

theorem fail (f : Failure) : (Action.fail f : Action (Watched (σ × List Exchange)) α).Follows
    fun xs n r => xs = [] ∧ n = 0 ∧ r = .error f := silent fun _ => ⟨rfl, rfl, rfl⟩

theorem ofExcept (r : Except Failure α) :
    (Action.ofExcept r : Action (Watched (σ × List Exchange)) α).Follows
      fun xs n r' => xs = [] ∧ n = 0 ∧ r' = r := silent fun _ => ⟨rfl, rfl, rfl⟩

theorem tell {notices : List Notice} (h : ∀ n ∈ notices, n.isSuccess = false) :
    (Action.tell notices : Action (Watched (σ × List Exchange)) Unit).Follows
      fun xs n r => xs = [] ∧ n = 0 ∧ r = .ok () :=
  silent fun w => ⟨rfl, (w.collector.successes_recordAll _).trans (successes_eq_zero h), rfl⟩

theorem attempt {x : Action (Watched (σ × List Exchange)) α} (hx : x.Follows R) :
    x.attempt.Follows fun xs n r => ∃ q, r = .ok q ∧ R xs n q := by
  intro w
  obtain ⟨xs, n, hnoted, hcount, hR⟩ := hx w
  exact ⟨xs, n, hnoted, hcount, _, rfl, hR⟩

theorem mono {x : Action (Watched (σ × List Exchange)) α}
    {T : List Exchange → Nat → Except Failure α → Prop} (hx : x.Follows R)
    (h : ∀ xs n r, R xs n r → T xs n r) : x.Follows T := fun w =>
  let ⟨xs, n, hnoted, hcount, hR⟩ := hx w
  ⟨xs, n, hnoted, hcount, h xs n _ hR⟩

end Follows

end Action

/-! ## The parts of a compilation -/

namespace Compilation

variable {σ : Type}

end Compilation

namespace Action

variable {σ α β : Type}

/-- Work that takes down exchanges is otherwise the same as work that does not. -/
def Forgets (x : Action (Watched (σ × List Exchange)) α) (y : Action (Watched σ) α) : Prop :=
  ∀ w, y ⟨w.machine.1, w.collector⟩ =
    ⟨(x w).outcome, ⟨(x w).machine.machine.1, (x w).machine.collector⟩, (x w).journal⟩

namespace Forgets

theorem bind {x : Action (Watched (σ × List Exchange)) α} {y : Action (Watched σ) α}
    {f : α → Action (Watched (σ × List Exchange)) β} {g : α → Action (Watched σ) β}
    (hx : x.Forgets y) (hf : ∀ a, (f a).Forgets (g a)) : (x.bind f).Forgets (y.bind g) := by
  intro w
  cases hout : (x w).outcome with
  | error e =>
    rw [bind_of_error hout, bind_of_error (by rw [hx w, hout]), hx w]
  | ok a =>
    rw [bind_of_ok hout, bind_of_ok (a := a) (by rw [hx w, hout]), hx w]
    simp only [hf a (x w).machine]

theorem pure (a : α) : (Pure.pure a : Action (Watched (σ × List Exchange)) α).Forgets
    (Pure.pure a) := fun _ => rfl

theorem tell (notices : List Notice) :
    (Action.tell notices : Action (Watched (σ × List Exchange)) Unit).Forgets
      (Action.tell notices) := fun _ => rfl

theorem ofExcept (r : Except Failure α) :
    (Action.ofExcept r : Action (Watched (σ × List Exchange)) α).Forgets (Action.ofExcept r) :=
  fun _ => rfl

theorem fail (f : Failure) :
    (Action.fail f : Action (Watched (σ × List Exchange)) α).Forgets (Action.fail f) :=
  fun _ => rfl

theorem attempt {x : Action (Watched (σ × List Exchange)) α} {y : Action (Watched σ) α}
    (hx : x.Forgets y) : x.attempt.Forgets y.attempt := by
  intro w
  simp only [Action.attempt, hx w]

end Forgets

end Action

namespace Compilation

variable {σ : Type}

open Provision.Action (Forgets)

end Compilation

end Provision
