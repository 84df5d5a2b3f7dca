import Provision.Catalog.Reader
import Provision.Power.Snapshot
import Provision.Registry.Statement

/-!
# What documents that could be read have ensured

* `Target.wellFormed_of_checked`: a target that passes its check is well-formed but for its mask.
* **`Target.wellFormed_of_ofValue`**: the parts of a target that was read fit together.
* `Reading.IsNumeric`: both indexes of a reading are integers or absent.
* **`Snapshot.isNumeric_of_ofValue`**: so are those of a snapshot that was read.
-/

namespace Provision

theorem Except.exists_of_bind_ok {ε α β : Type} {x : Except ε α} {f : α → Except ε β} {b : β}
    (h : (x >>= f) = .ok b) : ∃ a, x = .ok a ∧ f a = .ok b := by
  cases x with
  | error e => cases h
  | ok a => exact ⟨a, rfl, h⟩

theorem Except.bind_ok_iff {ε α β : Type} {x : Except ε α} {f : α → Except ε β} {b : β} :
    (x >>= f) = .ok b ↔ ∃ a, x = .ok a ∧ f a = .ok b := by
  refine ⟨Except.exists_of_bind_ok, ?_⟩
  rintro ⟨a, rfl, h⟩
  exact h

theorem Except.exists_of_map_ok {ε α β : Type} {x : Except ε α} {f : α → β} {b : β}
    (h : x.map f = .ok b) : ∃ a, x = .ok a ∧ f a = b := by
  cases x with
  | error e => cases h
  | ok a => exact ⟨a, rfl, Except.ok.inj h⟩

theorem Except.mapError_ok_iff {ε δ α : Type} {f : ε → δ} {r : Except ε α} {a : α} :
    r.mapError f = .ok a ↔ r = .ok a := by
  cases r with
  | error e => constructor <;> intro h <;> cases h
  | ok b => constructor <;> intro h <;> cases h <;> rfl

theorem Except.exists_of_mem_mapM {ε α β : Type} {f : α → Except ε β} {as : List α}
    {bs : List β} (h : as.mapM f = .ok bs) {b : β} (hb : b ∈ bs) : ∃ a ∈ as, f a = .ok b := by
  induction as generalizing bs with
  | nil => cases h; exact absurd hb List.not_mem_nil
  | cons a as ih =>
    rw [List.mapM_cons] at h
    obtain ⟨b', hb', h⟩ := Except.exists_of_bind_ok h
    obtain ⟨bs', hbs', h⟩ := Except.exists_of_bind_ok h
    cases h
    obtain rfl | hb := List.mem_cons.mp hb
    · exact ⟨a, List.mem_cons_self, hb'⟩
    · obtain ⟨a', ha', hf⟩ := ih hbs' hb
      exact ⟨a', List.mem_cons_of_mem _ ha', hf⟩

theorem Except.exists_mem_of_mapM {ε α β : Type} {f : α → Except ε β} {as : List α} {bs : List β}
    (h : as.mapM f = .ok bs) {a : α} (ha : a ∈ as) : ∃ b ∈ bs, f a = .ok b := by
  induction as generalizing bs with
  | nil => exact absurd ha List.not_mem_nil
  | cons a' as ih =>
    rw [List.mapM_cons] at h
    obtain ⟨b', hb', h⟩ := Except.exists_of_bind_ok h
    obtain ⟨bs', hbs', h⟩ := Except.exists_of_bind_ok h
    cases h
    obtain rfl | ha := List.mem_cons.mp ha
    · exact ⟨b', List.mem_cons_self, hb'⟩
    · obtain ⟨b, hb, hf⟩ := ih hbs' ha
      exact ⟨b, List.mem_cons_of_mem _ hb, hf⟩

/-- Work that keeps what a test sees: the first result that passes comes from the first element that
does. -/
theorem Except.find?_of_mapM {ε α β : Type} {f : α → Except ε β} {p : α → Bool} {q : β → Bool}
    (hkept : ∀ a b, f a = .ok b → q b = p a) {as : List α} {bs : List β}
    (h : as.mapM f = .ok bs) {a : α} (ha : as.find? p = some a) :
    ∃ b, f a = .ok b ∧ bs.find? q = some b := by
  induction as generalizing bs with
  | nil => cases ha
  | cons a' as ih =>
    rw [List.mapM_cons] at h
    obtain ⟨b', hb', h⟩ := Except.exists_of_bind_ok h
    obtain ⟨bs', hbs', h⟩ := Except.exists_of_bind_ok h
    cases h
    have hq := hkept a' b' hb'
    cases hp : p a' with
    | true =>
      rw [List.find?_cons_of_pos hp] at ha
      cases ha
      exact ⟨b', hb', List.find?_cons_of_pos (hq.trans hp)⟩
    | false =>
      rw [List.find?_cons_of_neg (by simp [hp])] at ha
      obtain ⟨b, hb, hfind⟩ := ih hbs' ha
      exact ⟨b, hb, (List.find?_cons_of_neg (by simp [hq, hp])).trans hfind⟩

theorem Except.exists_mapM_ok_iff {ε α β : Type} {f : α → Except ε β} {as : List α} :
    (∃ bs, as.mapM f = .ok bs) ↔ ∀ a ∈ as, ∃ b, f a = .ok b := by
  induction as with
  | nil => exact iff_of_true ⟨[], rfl⟩ fun a ha => absurd ha List.not_mem_nil
  | cons a as ih =>
    rw [List.forall_mem_cons, ← ih, List.mapM_cons]
    constructor
    · rintro ⟨bs, h⟩
      obtain ⟨b, hb, h⟩ := Except.exists_of_bind_ok h
      obtain ⟨bs', hbs', -⟩ := Except.exists_of_bind_ok h
      exact ⟨⟨b, hb⟩, bs', hbs'⟩
    · rintro ⟨⟨b, hb⟩, bs, hbs⟩
      exact ⟨b :: bs, by rw [hb, hbs]; rfl⟩

/-! ## Registry targets -/

/-- The bits that a mask of a mode selects belong to a byte. -/
def Mode.Masked (m : Mode) : Prop := ∀ index mask, m = .bit index mask → 0 < mask ∧ mask ≤ 255

namespace Mode

theorem masked_bitPatch {index mask : Int} {m : Mode} (h : bitPatch index mask = .ok m) :
    m.Masked := by
  unfold bitPatch at h
  split at h
  · cases h
  split at h
  · rename_i hmask
    cases h
    intro i k heq
    cases heq
    omega
  · cases h

theorem masked_bytePatch {index : Int} {m : Mode} (h : bytePatch index = .ok m) : m.Masked := by
  unfold bytePatch at h
  split at h <;> cases h
  exact fun _ _ heq => nomatch heq

theorem masked_ofEntries {es : Entries} {place : String} {m : Mode}
    (h : ofEntries es place = .ok m) : m.Masked := by
  unfold ofEntries at h
  simp only at h
  split at h
  · cases h
  split at h
  · split at h <;> cases h
    exact fun _ _ heq => nomatch heq
  split at h
  · split at h
    · cases h
    obtain ⟨n, -, h⟩ := Except.exists_of_bind_ok h
    split at h
    · exact masked_bytePatch h
    · obtain ⟨k, -, h⟩ := Except.exists_of_bind_ok h
      exact masked_bitPatch h
  split at h <;> cases h
  exact fun _ _ heq => nomatch heq

end Mode

namespace Target

/-- **A target that passes its check is well-formed**, if the bits of its mask belong to a byte. -/
theorem wellFormed_of_checked {t t' : Target} (h : t.checked = .ok t') (hmask : t.mode.Masked) :
    t' = t ∧ t.WellFormed := by
  unfold checked at h
  split at h
  · cases h
  rename_i hnone
  cases h
  refine ⟨rfl, ?_⟩
  unfold problem? at hnone
  simp only at hnone
  split at hnone
  · cases hnone
  rename_i hpath
  split at hnone
  · rename_i hmode
    split at hnone
    · cases hnone
    · rename_i hname
      refine ⟨hpath, iff_of_false hname fun hne => hne hmode, fun hpatch => ?_, hmask⟩
      rw [hmode] at hpatch
      cases hpatch
  rename_i hmode
  split at hnone
  · cases hnone
  rename_i hname
  refine ⟨hpath, iff_of_true (by simpa using hname) hmode, fun hpatch => ?_, hmask⟩
  obtain ⟨patch, hpatch⟩ := Option.isSome_iff_exists.mp hpatch
  simp only [hpatch] at hnone
  split at hnone
  · assumption
  · cases hnone

/-- **The parts of a target that was read fit together.** -/
theorem wellFormed_of_ofValue {doc : Value} {place : String} {t : Target}
    (h : Target.ofValue doc place = .ok t) : t.WellFormed := by
  obtain ⟨es, -, h⟩ := Except.exists_of_bind_ok h
  obtain ⟨keyPath, -, h⟩ := Except.exists_of_bind_ok h
  obtain ⟨kind, -, h⟩ := Except.exists_of_bind_ok h
  obtain ⟨mode, hmode, h⟩ := Except.exists_of_bind_ok h
  have hchecked : ∃ valueName, Target.checked ⟨keyPath, valueName, kind, es.field "enabled_value",
      es.field "disabled_value", mode⟩ = .ok t := by
    simp only at h
    split at h
    · exact ⟨none, h⟩
    · obtain ⟨name, -, h⟩ := Except.exists_of_bind_ok h
      exact ⟨name, h⟩
  obtain ⟨valueName, hchecked⟩ := hchecked
  obtain ⟨rfl, hwell⟩ := wellFormed_of_checked hchecked (Mode.masked_ofEntries hmode)
  exact hwell

/-- Every well-formed target but a subkey has the name that its commands use. -/
theorem WellFormed.valueName_eq {t : Target} (h : t.WellFormed) (hmode : t.mode ≠ .subkey) :
    t.valueName = some t.commandName := by
  have hnamed := h.name_iff.mpr hmode
  cases hname : t.valueName with
  | none => rw [hname] at hnamed; cases hnamed
  | some s => simp [commandName, hname]

end Target

/-! ## Snapshots -/

/-- A side of a reading is an integer or absent. -/
def Value.IsIndex (v : Value) : Prop := v = .null ∨ ∃ n, v = .int n

/-- Both sides of a reading are integers or absent. -/
structure Reading.IsNumeric (r : Reading) : Prop where
  ac : r.ac.IsIndex
  dc : r.dc.IsIndex

/-- All readings are numeric. -/
def Readings.AreNumeric (rs : Readings) : Prop := ∀ e ∈ rs, e.2.IsNumeric

namespace Snapshot

theorem isIndex_of_sideOfValue {v v' : Value} {place : String}
    (h : sideOfValue v place = .ok v') : v'.IsIndex := by
  obtain ⟨n?, -, h⟩ := Except.exists_of_bind_ok h
  cases n? with
  | none => cases h; exact .inl rfl
  | some n => cases h; exact .inr ⟨n, rfl⟩

theorem isNumeric_of_readingOfValue {v : Value} {place : String} {r : Reading}
    (h : readingOfValue v place = .ok r) : r.IsNumeric := by
  have hsides : ∃ ac dc : Value, (do
      return ⟨← sideOfValue ac (place ++ ".ac"), ← sideOfValue dc (place ++ ".dc")⟩) =
        Except.ok r := by
    unfold readingOfValue at h
    split at h
    · exact ⟨_, _, h⟩
    · exact ⟨_, _, h⟩
    · cases h
  obtain ⟨ac, dc, h⟩ := hsides
  obtain ⟨ac, hac, h⟩ := Except.exists_of_bind_ok h
  obtain ⟨dc, hdc, h⟩ := Except.exists_of_bind_ok h
  cases h
  exact ⟨isIndex_of_sideOfValue hac, isIndex_of_sideOfValue hdc⟩

end Snapshot

namespace Readings

theorem AreNumeric.insert {rs : Readings} (hrs : rs.AreNumeric) {r : Reading} (hr : r.IsNumeric)
    (guid : String) : (rs.insert guid r).AreNumeric := Table.forall_mem_put hrs hr

/-- Readings by GUID in lower case are those that there were. -/
theorem AreNumeric.ofList {rs : List (String × Reading)} (hrs : AreNumeric rs) :
    (ofList rs).AreNumeric := by
  have hfold : ∀ acc : Readings, acc.AreNumeric →
      (rs.foldl (fun acc e => acc.insert e.1 e.2) acc).AreNumeric := by
    induction rs with
    | nil => exact fun _ h => h
    | cons e rs ih =>
      obtain ⟨he, hrs⟩ := List.forall_mem_cons.mp hrs
      exact fun acc hacc => ih hrs _ (hacc.insert he e.1)
  exact hfold [] fun e he => absurd he List.not_mem_nil

theorem AreNumeric.isNumeric_of_get? {rs : Readings} (hrs : rs.AreNumeric) {guid : String}
    {r : Reading} (h : rs.get? guid = some r) : r.IsNumeric := by
  obtain ⟨k, -, hmem⟩ := Table.mem_of_get? h
  exact hrs (k, r) hmem

end Readings

namespace Snapshot

theorem areNumeric_of_readingsOfEntries {rs rs' : Readings} {es : List (Value × Value)}
    (hrs : rs.AreNumeric) (h : readingsOfEntries rs es = .ok rs') : rs'.AreNumeric := by
  induction es generalizing rs with
  | nil => cases h; exact hrs
  | cons e es ih =>
    obtain ⟨guid, -, h⟩ := Except.exists_of_bind_ok h
    obtain ⟨r, hr, h⟩ := Except.exists_of_bind_ok h
    exact ih (hrs.insert (isNumeric_of_readingOfValue hr) _) h

/-- **The readings of a snapshot that was read are numeric.** -/
theorem isNumeric_of_ofValue {doc : Value} {snapshot : Snapshot}
    (h : Snapshot.ofValue doc = .ok snapshot) : snapshot.readings.AreNumeric := by
  unfold ofValue at h
  split at h
  · rename_i es
    cases hes : ofEntries es with
    | error p => rw [hes] at h; cases h
    | ok s =>
      rw [hes] at h
      cases h
      obtain ⟨_, -, hes⟩ := Except.exists_of_bind_ok hes
      obtain ⟨_, -, hes⟩ := Except.exists_of_bind_ok hes
      obtain ⟨_, -, hes⟩ := Except.exists_of_bind_ok hes
      obtain ⟨readings, hreadings, hes⟩ := Except.exists_of_bind_ok hes
      cases hes
      exact areNumeric_of_readingsOfEntries (fun e he => absurd he List.not_mem_nil) hreadings
  · cases h

end Snapshot

end Provision
