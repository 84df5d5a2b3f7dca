/-!
# Tables

* `Table.get?`, `Table.put`: lookup in a list of pairs, and writing to it: a key that is there
  already keeps its place and its spelling, and a new one goes to the end.
* **`Table.get?_put_self`**, **`Table.get?_put_of_not`**: a written value is found, and writing
  changes nothing else.
* `Table.eraseDups_concat`, `Table.nodup_eraseDups`: keys, each once and where it came first.

A key is given by a test, since keys of documents are the same under a relation coarser than
equality.
-/

namespace Provision.Table

variable {κ β : Type}

/-- The value of the first key that passes a test. -/
def get? (test : κ → Bool) : List (κ × β) → Option β
  | [] => none
  | e :: es => if test e.1 then some e.2 else get? test es

/-- Writes a value to the first key that passes a test, or else to `key` at the end. -/
def put (test : κ → Bool) (key : κ) (b : β) : List (κ × β) → List (κ × β)
  | [] => [(key, b)]
  | e :: es => if test e.1 then (e.1, b) :: es else e :: put test key b es

theorem get?_put_self {test : κ → Bool} {key : κ} (h : test key = true) (b : β)
    (es : List (κ × β)) : get? test (put test key b es) = some b := by
  induction es with
  | nil => simp [put, get?, h]
  | cons e es ih =>
    by_cases he : test e.1 = true
    · simp [put, get?, he]
    · simp [put, get?, he, ih]

theorem get?_put_of_not {test other : κ → Bool} {key : κ}
    (h : ∀ k, test k = true → other k = false) (hk : other key = false) (b : β)
    (es : List (κ × β)) : get? other (put test key b es) = get? other es := by
  induction es with
  | nil => simp [put, get?, hk]
  | cons e es ih =>
    by_cases he : test e.1 = true
    · simp [put, get?, he, h e.1 he]
    · simp [put, get?, he, ih]

/-- The keys stay as they are, but for a new one at the end. -/
theorem keys_put (test : κ → Bool) (key : κ) (b : β) (es : List (κ × β)) :
    (put test key b es).map Prod.fst =
      if es.any fun e => test e.1 then es.map Prod.fst else es.map Prod.fst ++ [key] := by
  induction es with
  | nil => rfl
  | cons e es ih =>
    rw [List.any_cons]
    cases he : test e.1
    · rw [put, he, Bool.false_or, if_neg Bool.false_ne_true, List.map_cons, ih]
      split <;> rfl
    · rw [put, he, Bool.true_or, if_pos rfl, if_pos rfl]
      rfl

theorem mem_of_get? {test : κ → Bool} {b : β} {es : List (κ × β)} (h : get? test es = some b) :
    ∃ k, test k = true ∧ (k, b) ∈ es := by
  induction es with
  | nil => simp [get?] at h
  | cons e es ih =>
    by_cases he : test e.1 = true
    · simp [get?, he] at h
      exact ⟨e.1, he, by simp [← h]⟩
    · simp [get?, he] at h
      obtain ⟨k, hk, hm⟩ := ih h
      exact ⟨k, hk, List.mem_cons_of_mem e hm⟩

/-- Entries that no test finds can be left out. -/
theorem get?_filter_of_imp {test keep : κ → Bool} (h : ∀ k, test k = true → keep k = true)
    (es : List (κ × β)) : get? test (es.filter fun e => keep e.1) = get? test es := by
  induction es with
  | nil => rfl
  | cons e es ih =>
    cases hkeep : keep e.1 with
    | true => simp [hkeep, get?, ih]
    | false =>
      have htest : test e.1 = false := by
        rw [Bool.eq_false_iff]
        intro htest
        exact Bool.false_ne_true (hkeep.symm.trans (h e.1 htest))
      simp [hkeep, get?, htest, ih]

theorem get?_eq_find? (test : κ → Bool) (es : List (κ × β)) :
    get? test es = (es.find? fun e => test e.1).map Prod.snd := by
  induction es with
  | nil => rfl
  | cons e es ih => cases h : test e.1 <;> simp [get?, h, ih]

theorem forall_mem_put {p : β → Prop} {test : κ → Bool} {key : κ} {b : β} {es : List (κ × β)}
    (hes : ∀ e ∈ es, p e.2) (hb : p b) : ∀ e ∈ put test key b es, p e.2 := by
  induction es with
  | nil => exact List.forall_mem_singleton.mpr hb
  | cons e es ih =>
    obtain ⟨he, hes⟩ := List.forall_mem_cons.mp hes
    rw [put]
    split
    · exact List.forall_mem_cons.mpr ⟨hb, hes⟩
    · exact List.forall_mem_cons.mpr ⟨he, ih hes⟩

/-! ## Distinct keys -/

variable [BEq κ] [LawfulBEq κ]

theorem eraseDups_concat (ks : List κ) (k : κ) :
    (ks ++ [k]).eraseDups = ks.eraseDups ++ if ks.contains k then [] else [k] := by
  rw [List.eraseDups_append, List.removeAll]
  cases hk : ks.contains k <;> simp_all [List.eraseDups_cons]

theorem nodup_eraseDups : ∀ ks : List κ, ks.eraseDups.Nodup
  | [] => List.nodup_nil
  | k :: ks => by
    have hnew : k ∉ (ks.filter fun k' => !k' == k).eraseDups := by simp [List.mem_eraseDups]
    rw [List.eraseDups_cons]
    exact List.nodup_cons.mpr ⟨hnew, nodup_eraseDups _⟩
termination_by ks => ks.length
decreasing_by exact Nat.lt_succ_of_le (List.length_filter_le _ _)

end Provision.Table
