import Provision.Failure
import Provision.Journal.Notice

/-!
# Drafts

* `Draft`: a piece of work that writes items and reports notices on its way, and that may end in a
  failure; what was written and reported before the failure stays.
* `Draft.write`, `Draft.report`, `Draft.fail`, `Draft.lift`: its basic actions.
* `Draft.each`: the same work for every element of a list, in order.
* **`Draft.exists_of_bind_ok`**, **`Draft.each_of_ok`**: work in parts that ended well wrote and
  reported what its parts did, and all of them ended well.
-/

namespace Provision

/-- The items and notices of a piece of work, and how it ended. -/
structure Draft (ω α : Type) where
  outcome : Except Failure α
  items : List ω
  notices : List Notice

namespace Draft

variable {ω α β : Type}

/-- Ends with a value. -/
protected def pure (a : α) : Draft ω α := ⟨.ok a, [], []⟩

/-- Goes on with what the first part ended with, unless it failed. -/
protected def bind (d : Draft ω α) (f : α → Draft ω β) : Draft ω β :=
  match d.outcome with
  | .ok a =>
    let rest := f a
    ⟨rest.outcome, d.items ++ rest.items, d.notices ++ rest.notices⟩
  | .error e => ⟨.error e, d.items, d.notices⟩

instance : Monad (Draft ω) where
  pure := Draft.pure
  bind := Draft.bind

/-- Writes items. -/
def write (items : List ω) : Draft ω Unit := ⟨.ok (), items, []⟩

/-- Reports notices; one that cannot be written ends the work. -/
def report (notices : List Notice) : Draft ω Unit :=
  if notices.all Notice.isWritable then ⟨.ok (), [], notices⟩
  else ⟨.error (.misfit .wrongContent), [], notices.takeWhile Notice.isWritable⟩

/-- Ends in a failure. -/
def fail (f : Failure) : Draft ω α := ⟨.error f, [], []⟩

/-- A value that came with notices. -/
def reported (r : α × List Notice) : Draft ω α := (report r.2).bind fun _ => Draft.pure r.1

/-- A value, or the misfit that there is none. -/
def lift (r : Except Misfit α) : Draft ω α := ⟨r.mapError Failure.misfit, [], []⟩

/-- The same work for every element of a list, in order. -/
def each (f : α → Draft ω Unit) : List α → Draft ω Unit
  | [] => Draft.pure ()
  | a :: as => Draft.bind (f a) fun _ => each f as

/-! ## The basic actions -/

@[simp] theorem bind_eq (d : Draft ω α) (f : α → Draft ω β) : (d >>= f) = d.bind f := rfl

@[simp] theorem pure_eq (a : α) : (pure a : Draft ω α) = ⟨.ok a, [], []⟩ := rfl

@[simp] theorem write_eq (items : List ω) : write items = ⟨.ok (), items, []⟩ := rfl

theorem report_of_ok {notices : List Notice} {u : Unit}
    (h : (report notices : Draft ω Unit).outcome = .ok u) :
    (report notices : Draft ω Unit) = ⟨.ok (), [], notices⟩ := by
  unfold report at h ⊢
  split at h
  · rw [if_pos ‹_›]
  · cases h

@[simp] theorem items_lift (r : Except Misfit α) : (lift r : Draft ω α).items = [] := rfl

@[simp] theorem notices_lift (r : Except Misfit α) : (lift r : Draft ω α).notices = [] := rfl

theorem lift_ok_iff {r : Except Misfit α} {a : α} :
    (lift r : Draft ω α).outcome = .ok a ↔ r = .ok a := by
  cases r with
  | error m => exact iff_of_false nofun nofun
  | ok b =>
    exact ⟨fun h => congrArg Except.ok (Except.ok.inj h),
      fun h => congrArg Except.ok (Except.ok.inj h)⟩

/-! ## Work in two parts -/

theorem bind_of_ok {d : Draft ω α} {a : α} (h : d.outcome = .ok a) (f : α → Draft ω β) :
    d.bind f = ⟨(f a).outcome, d.items ++ (f a).items, d.notices ++ (f a).notices⟩ := by
  simp only [Draft.bind, h]

theorem exists_of_bind_ok {d : Draft ω α} {f : α → Draft ω β} {b : β}
    (h : (d.bind f).outcome = .ok b) :
    ∃ a, d.outcome = .ok a ∧ (f a).outcome = .ok b ∧
      d.bind f = ⟨.ok b, d.items ++ (f a).items, d.notices ++ (f a).notices⟩ := by
  cases hd : d.outcome with
  | error e => simp [Draft.bind, hd] at h
  | ok a =>
    rw [bind_of_ok hd] at h ⊢
    exact ⟨a, rfl, h, by rw [show (f a).outcome = .ok b from h]⟩

/-- A value that came with notices which could be written. -/
theorem reported_of_ok {r : α × List Notice} {a : α}
    (h : (reported r : Draft ω α).outcome = .ok a) :
    a = r.1 ∧ (reported r : Draft ω α) = ⟨.ok r.1, [], r.2⟩ := by
  obtain ⟨u, hr, ha, heq⟩ := exists_of_bind_ok h
  have ha : r.1 = a := by simpa [Draft.pure] using ha
  refine ⟨ha.symm, ?_⟩
  rw [reported, heq, report_of_ok hr, ← ha]
  simp [Draft.pure]

/-- What two parts write is written by one of them, by the second only if the first ended well. -/
theorem mem_items_bind {d : Draft ω α} {f : α → Draft ω β} {b : ω} (h : b ∈ (d.bind f).items) :
    b ∈ d.items ∨ ∃ a, d.outcome = .ok a ∧ b ∈ (f a).items := by
  cases hd : d.outcome with
  | error e =>
    rw [Draft.bind, hd] at h
    exact .inl h
  | ok a =>
    rw [bind_of_ok hd] at h
    exact (List.mem_append.mp h).imp_right fun h => ⟨a, rfl, h⟩

@[simp] theorem items_reported (r : α × List Notice) : (reported r : Draft ω α).items = [] := by
  unfold reported report
  split <;> rfl

/-! ## Work for a list -/

/-- The work for a list ended well: so did the work for each element, in order. -/
theorem each_of_ok {f : α → Draft ω Unit} {xs : List α} {u : Unit}
    (h : (each f xs).outcome = .ok u) :
    (∀ x ∈ xs, (f x).outcome = .ok ()) ∧
      each f xs = ⟨.ok (), xs.flatMap fun x => (f x).items, xs.flatMap fun x => (f x).notices⟩ := by
  induction xs with
  | nil => exact ⟨fun x hx => absurd hx List.not_mem_nil, rfl⟩
  | cons x xs ih =>
    obtain ⟨u, hx, hxs, heq⟩ := exists_of_bind_ok h
    obtain ⟨hall, hrest⟩ := ih hxs
    refine ⟨List.forall_mem_cons.mpr ⟨hx, hall⟩, ?_⟩
    rw [each, heq, hrest]
    rfl

theorem exists_of_mem_each {f : α → Draft ω Unit} {xs : List α} {b : ω}
    (h : b ∈ (each f xs).items) : ∃ x ∈ xs, b ∈ (f x).items := by
  induction xs with
  | nil => exact absurd h List.not_mem_nil
  | cons x xs ih =>
    rcases mem_items_bind h with h | ⟨-, -, h⟩
    · exact ⟨x, List.mem_cons_self, h⟩
    · obtain ⟨y, hy, h⟩ := ih h
      exact ⟨y, List.mem_cons_of_mem x hy, h⟩

end Draft

end Provision
