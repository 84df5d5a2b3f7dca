import Provision.Journal.Collector
import Provision.Journal.Draft

/-!
# Actions

* `Action`: work on a machine, which may report and may fail; what it did and reported before a
  failure stays.
* `Action.report`, `Action.say`, `Action.fail`, `Action.ofExcept`, `Action.attempt`: its basic
  forms.
* `Action.bind_of_ok`, `Action.bind_of_error`: what follows a part that ended well, and one that
  failed.
* `Watched`: a machine whose warnings are collected; `Action.tell` reports through the collector and
  `Action.beside` past it.
-/

namespace Provision

/-- How an action ended: its outcome, the machine after it, and what it reported. -/
structure Turn (σ α : Type) where
  outcome : Except Failure α
  machine : σ
  journal : List Entry

/-- Work on a machine. -/
def Action (σ α : Type) : Type := σ → Turn σ α

namespace Action

variable {σ α β : Type}

/-- Ends with a value. -/
protected def pure (a : α) : Action σ α := fun s => ⟨.ok a, s, []⟩

/-- Goes on with what the first part ended with, unless it failed. -/
protected def bind (x : Action σ α) (f : α → Action σ β) : Action σ β := fun s =>
  let t := x s
  match t.outcome with
  | .ok a =>
    let u := f a t.machine
    ⟨u.outcome, u.machine, t.journal ++ u.journal⟩
  | .error e => ⟨.error e, t.machine, t.journal⟩

instance : Monad (Action σ) where
  pure := Action.pure
  bind := Action.bind

@[simp] theorem bind_eq (x : Action σ α) (f : α → Action σ β) : (x >>= f) = x.bind f := rfl

@[simp] theorem pure_eq (a : α) : (pure a : Action σ α) = fun s => ⟨.ok a, s, []⟩ := rfl

theorem bind_of_ok {x : Action σ α} {s : σ} {a : α} (h : (x s).outcome = .ok a)
    (f : α → Action σ β) :
    x.bind f s = ⟨(f a (x s).machine).outcome, (f a (x s).machine).machine,
      (x s).journal ++ (f a (x s).machine).journal⟩ := by
  simp only [Action.bind, h]

theorem bind_of_error {x : Action σ α} {s : σ} {e : Failure} (h : (x s).outcome = .error e)
    (f : α → Action σ β) : x.bind f s = ⟨.error e, (x s).machine, (x s).journal⟩ := by
  simp only [Action.bind, h]

theorem outcome_bind (x : Action σ α) (f : α → Action σ β) (s : σ) :
    (x.bind f s).outcome = (x s).outcome >>= fun a => (f a (x s).machine).outcome := by
  cases h : (x s).outcome with
  | error e =>
    rw [bind_of_error h]
    rfl
  | ok a =>
    rw [bind_of_ok h]
    rfl

/-- Work in two parts that ended well: both parts did. -/
theorem exists_of_bind_ok {x : Action σ α} {f : α → Action σ β} {s : σ} {b : β}
    (h : (x.bind f s).outcome = .ok b) :
    ∃ a, (x s).outcome = .ok a ∧ (f a (x s).machine).outcome = .ok b := by
  cases hout : (x s).outcome with
  | error e =>
    rw [bind_of_error hout] at h
    cases h
  | ok a =>
    rw [bind_of_ok hout] at h
    exact ⟨a, rfl, h⟩

/-- Ends in a failure. -/
def fail (f : Failure) : Action σ α := fun s => ⟨.error f, s, []⟩

/-- Ends as given. -/
def ofExcept (r : Except Failure α) : Action σ α := fun s => ⟨r, s, []⟩

/-- Reports notices. -/
def report (notices : List Notice) : Action σ Unit := fun s => ⟨.ok (), s, notices.map Notice.entry⟩

/-- Says lines to the user. -/
def say (lines : List String) : Action σ Unit := fun s => ⟨.ok (), s, lines.map Entry.said⟩

/-- The machine as it is. -/
def look : Action σ σ := fun s => ⟨.ok s, s, []⟩

/-- Changes the machine. -/
def change (f : σ → σ) : Action σ Unit := fun s => ⟨.ok (), f s, []⟩

/-- Does the work and ends with its outcome, so that a failure is no end. -/
def attempt (x : Action σ α) : Action σ (Except Failure α) := fun s =>
  let t := x s
  ⟨.ok t.outcome, t.machine, t.journal⟩

end Action

/-- A machine, and what has been reported through its collector. -/
structure Watched (σ : Type) where
  machine : σ
  collector : Collector

namespace Action

variable {σ α : Type}

/-- Reports through the collector. -/
def tell (notices : List Notice) : Action (Watched σ) Unit := fun w =>
  let (collector, passed) := w.collector.recordAll (notices.map Notice.entry)
  ⟨.ok (), ⟨w.machine, collector⟩, passed⟩

/-- Work on the machine alone, which reports past the collector. -/
def beside (x : Action σ α) : Action (Watched σ) α := fun w =>
  let t := x w.machine
  ⟨t.outcome, ⟨t.machine, w.collector⟩, t.journal⟩

/-- Work on a machine that is watched from its start to its end. -/
def watched (x : Action (Watched σ) α) : Action σ α := fun s =>
  let t := x ⟨s, Collector.empty⟩
  ⟨t.outcome, t.machine.machine, t.journal⟩

end Action

end Provision
