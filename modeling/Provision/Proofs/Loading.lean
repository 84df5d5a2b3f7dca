import Provision.Document.Loading

/-!
# Reading documents

* `Action.Keeps`: work that leaves what a view shows of the machine as it is.
* **`loadCatalog_keeps`**, **`loadConfiguration_keeps`**, **`loadSnapshot_keeps`**: reading a
  document leaves the whole machine as it is.
-/

namespace Provision

/-! ## Work that leaves something as it is -/

namespace Action

variable {σ α β γ : Type}

/-- The work leaves what a view shows of the machine as it is. -/
def Keeps (view : σ → γ) (x : Action σ α) : Prop := ∀ s, view (x s).machine = view s

namespace Keeps

variable {view : σ → γ}

theorem pure (a : α) : Keeps view (Pure.pure a : Action σ α) := fun _ => rfl

theorem bind {x : Action σ α} {f : α → Action σ β} (hx : Keeps view x)
    (hf : ∀ a, Keeps view (f a)) : Keeps view (x.bind f) := by
  intro s
  cases hout : (x s).outcome with
  | error e => rw [bind_of_error hout, hx s]
  | ok a => rw [bind_of_ok hout, hf a, hx s]

theorem fail (f : Failure) : Keeps view (Action.fail f : Action σ α) := fun _ => rfl

theorem ofExcept (r : Except Failure α) : Keeps view (Action.ofExcept r : Action σ α) :=
  fun _ => rfl

theorem report (notices : List Notice) : Keeps view (Action.report notices : Action σ Unit) :=
  fun _ => rfl

theorem look : Keeps view (Action.look : Action σ σ) := fun _ => rfl

theorem attempt {x : Action σ α} (hx : Keeps view x) : Keeps view x.attempt := fun s => hx s

theorem tell (notices : List Notice) :
    Keeps (fun w => view w.machine) (Action.tell notices : Action (Watched σ) Unit) := fun _ => rfl

theorem beside {x : Action σ α} (hx : Keeps view x) :
    Keeps (fun w : Watched σ => view w.machine) x.beside := fun w => hx w.machine

theorem watched {x : Action (Watched σ) α} (hx : Keeps (fun w => view w.machine) x) :
    Keeps view x.watched := fun s => hx ⟨s, Collector.empty⟩

end Keeps

end Action

open Provision.Action (Keeps)

/-! ## Documents -/

section Documents

variable {γ : Type} {view : Machine → γ}

theorem Machine.load_keeps (p : Path) : Keeps view (load p) := by
  refine Keeps.look.bind fun m => (Keeps.ofExcept _).bind fun there => ?_
  cases there with
  | true => exact (Keeps.ofExcept _).bind fun _ => .pure _
  | false => exact .pure _

theorem loadDocument_keeps (p : Path) : Keeps view (Document.load p) := by
  refine Keeps.look.bind fun m => (Machine.load_keeps p).bind fun content => ?_
  cases content with
  | none => exact .fail _
  | some bytes => exact .ofExcept _

theorem loadCatalog_keeps (p : Path) : Keeps view (loadCatalog p) :=
  (loadDocument_keeps p).bind fun _ => (Keeps.ofExcept _).bind fun _ => (Keeps.report _).bind
    fun _ => .pure _

theorem loadConfiguration_keeps (p : Path) : Keeps view (loadConfiguration p) :=
  (loadDocument_keeps p).bind fun _ => (Keeps.ofExcept _).bind fun _ => (Keeps.report _).bind
    fun _ => .pure _

theorem machine_loadCatalog (p : Path) (m : Machine) : (loadCatalog p m).machine = m :=
  @loadCatalog_keeps _ id p m

theorem machine_loadConfiguration (p : Path) (m : Machine) : (loadConfiguration p m).machine = m :=
  @loadConfiguration_keeps _ id p m

end Documents

end Provision
