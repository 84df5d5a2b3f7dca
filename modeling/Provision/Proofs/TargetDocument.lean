import Mathlib
import Provision.Proofs.Readers

/-!
# Documents of registry targets

A target is read field by field: the key path, the kind, the mode, the name. What is refused first
is what the message is about.

* `Worded`: what a reader refuses can be worded; `settled_iff`: only then it fails with a problem.
* `Mode.Form`: the modes that entries may ask for; `Mode.AskedFor`: the one that they ask for.
* `Target.Form`, `Target.IsAsked`: the same for whole targets; `Target.exists_isAsked_iff`.
* `Target.Wordable`: no number that a message or the name needs has too many digits.
* **`Target.reads_iff`**: a document is read as the target that it asks for exactly if its entries
  fit together, and refused with a problem otherwise, if and only if its refusals can be worded.
-/

namespace Provision

/-! ## Refusals that can be worded -/

/-- If something is refused, the reason can be worded. -/
def Worded {α : Type} (x : Except Problem α) : Prop := ∀ p, x = .error p → p.isWritable = true

section Worded

variable {α β : Type}

theorem worded_ok (a : α) : Worded (.ok a : Except Problem α) := fun _ h => nomatch h

theorem worded_error_iff {p : Problem} :
    Worded (.error p : Except Problem α) ↔ p.isWritable = true :=
  ⟨fun h => h p rfl, fun h _ heq => Except.error.inj heq ▸ h⟩

theorem worded_bind_iff {x : Except Problem α} {f : α → Except Problem β} :
    Worded (x >>= f) ↔ Worded x ∧ ∀ a, x = .ok a → Worded (f a) := by
  cases x with
  | error p =>
    have hstop : ((.error p : Except Problem α) >>= f) = .error p := rfl
    rw [hstop, worded_error_iff, worded_error_iff]
    exact (and_iff_left fun _ h => nomatch h).symm
  | ok a =>
    have hstep : ((.ok a : Except Problem α) >>= f) = f a := rfl
    rw [hstep]
    exact ⟨fun h => ⟨worded_ok a, fun _ heq => Except.ok.inj heq ▸ h⟩, fun h => h.2 a rfl⟩

theorem settled_iff {x : Except Problem α} :
    ((∃ a, x.mapError Failure.ofProblem = .ok a) ∨
      ∃ p, x.mapError Failure.ofProblem = .error (.problem p)) ↔ Worded x := by
  cases x with
  | ok a => exact iff_of_true (.inl ⟨a, rfl⟩) (worded_ok a)
  | error p =>
    rw [worded_error_iff]
    cases hp : p.isWritable <;> simp [Except.mapError, Failure.ofProblem, hp]

theorem Shape.worded_integer_iff {v : Value} {place : String} :
    Worded (integer v place) ↔ (v.integer? = none → v.isWritable = true) := by
  unfold integer Value.integer?
  cases v with
  | int n => simp [worded_ok]
  | str s =>
    cases h : Numeral.anyBase? (Text.trim s) <;>
      simp [h, worded_ok, worded_error_iff, Problem.isWritable, Value.isWritable]
  | _ => simp [worded_error_iff, Problem.isWritable]

end Worded

/-! ## Modes -/

namespace Mode

/-- A bit patch is asked for. -/
def asksBit (es : Entries) : Bool := !(es.field "bit_mask").isNull

/-- A byte patch is asked for. -/
def asksByte (es : Entries) : Bool := (es.field "modify_byte_only").isTruthy

/-- A subkey is asked for. -/
def asksSubkey (es : Entries) : Bool := (es.field "is_guid_subkey").isTruthy

/-- The index of a byte is given. -/
def hasIndex (es : Entries) : Bool := !(es.field "binary_byte_index").isNull

/-- The index of the byte, if it is an integer. -/
def index? (es : Entries) : Option Int := (es.field "binary_byte_index").integer?

/-- The mask, if it is an integer. -/
def mask? (es : Entries) : Option Int := (es.field "bit_mask").integer?

/-- At most one mode is asked for. -/
def IsSingle (es : Entries) : Prop := [asksBit es, asksByte es, asksSubkey es].count true ≤ 1

instance (es : Entries) : Decidable (IsSingle es) :=
  inferInstanceAs (Decidable (_ ≤ _))

theorem isSingle_iff {es : Entries} : IsSingle es ↔ ¬ (asksBit es = true ∧ asksByte es = true) ∧
    ¬ (asksBit es = true ∧ asksSubkey es = true) ∧
      ¬ (asksByte es = true ∧ asksSubkey es = true) := by
  rw [IsSingle]
  cases asksBit es <;> cases asksByte es <;> cases asksSubkey es <;> decide

/-- The patch that entries with an index ask for. -/
def patchOf (es : Entries) (place : String) : Except Problem Mode := do
  let n ← Shape.integer (es.field "binary_byte_index") (place ++ ".binary_byte_index")
  if asksBit es then
    let m ← Shape.integer (es.field "bit_mask") (place ++ ".bit_mask")
    bitPatch n m
  else bytePatch n

theorem ofEntries_eq (es : Entries) (place : String) : ofEntries es place =
    if ¬ IsSingle es then .error (.modesCombined place (requested es))
    else if asksSubkey es then
      if hasIndex es then .error (.indexOnSubkey place) else .ok .subkey
    else if asksBit es = true ∨ asksByte es = true then
      if hasIndex es then patchOf es place else .error (.indexRequired place)
    else if hasIndex es then .error (.indexUnused place)
    else .ok .plain := by
  cases hbit : (es.field "bit_mask").isNull <;>
    cases hbyte : (es.field "modify_byte_only").isTruthy <;>
      cases hsubkey : (es.field "is_guid_subkey").isTruthy <;>
        cases hindex : (es.field "binary_byte_index").isNull <;>
          simp [ofEntries, requested, patchOf, IsSingle, asksBit, asksByte, asksSubkey, hasIndex,
            hbit, hbyte, hsubkey, hindex, throw, throwThe, MonadExceptOf.throw, pure, Except.pure,
            bind, Except.bind]

theorem bitPatch_ok_iff {n k : Int} {m : Mode} : bitPatch n k = .ok m ↔
    ∃ index mask : Nat, n = index ∧ k = mask ∧ 0 < mask ∧ mask ≤ 255 ∧ m = .bit index mask := by
  unfold bitPatch
  split
  · rename_i hn
    refine iff_of_false (by simp) ?_
    rintro ⟨index, _, rfl, -⟩
    omega
  · split
    · constructor
      · rintro ⟨⟩
        exact ⟨n.toNat, k.toNat, by omega, by omega, by omega, by omega, rfl⟩
      · rintro ⟨index, mask, rfl, rfl, -, -, rfl⟩
        rfl
    · refine iff_of_false (by simp) ?_
      rintro ⟨_, mask, -, rfl, hpos, hle, -⟩
      omega

theorem bytePatch_ok_iff {n : Int} {m : Mode} :
    bytePatch n = .ok m ↔ ∃ index : Nat, n = index ∧ m = .byte index := by
  unfold bytePatch
  split
  · refine iff_of_false (by simp) ?_
    rintro ⟨index, rfl, -⟩
    omega
  · constructor
    · rintro ⟨⟩
      exact ⟨n.toNat, by omega, rfl⟩
    · rintro ⟨index, rfl, rfl⟩
      rfl

/-- The mode that entries ask for. -/
def AskedFor (es : Entries) : Mode → Prop
  | .plain => asksBit es = false ∧ asksByte es = false ∧ asksSubkey es = false ∧
      hasIndex es = false
  | .bit index mask => asksBit es = true ∧ asksByte es = false ∧ asksSubkey es = false ∧
      index? es = some (index : Int) ∧ mask? es = some (mask : Int) ∧ 0 < mask ∧ mask ≤ 255
  | .byte index => asksBit es = false ∧ asksByte es = true ∧ asksSubkey es = false ∧
      index? es = some (index : Int)
  | .subkey => asksBit es = false ∧ asksByte es = false ∧ asksSubkey es = true ∧
      hasIndex es = false

theorem patchOf_ok_iff {es : Entries} {place : String} {m : Mode} : patchOf es place = .ok m ↔
    ∃ index : Nat, index? es = some (index : Int) ∧
      if asksBit es then ∃ mask : Nat, mask? es = some (mask : Int) ∧ 0 < mask ∧ mask ≤ 255 ∧
        m = .bit index mask
      else m = .byte index := by
  rw [patchOf, Except.bind_ok_iff]
  cases asksBit es with
  | false =>
    simp only [Shape.integer_ok_iff, Bool.false_eq_true, if_false, bytePatch_ok_iff]
    constructor
    · rintro ⟨n, hindex, index, rfl, hm⟩
      exact ⟨index, hindex, hm⟩
    · rintro ⟨index, hindex, hm⟩
      exact ⟨index, hindex, index, rfl, hm⟩
  | true =>
    simp only [Shape.integer_ok_iff, if_true, Except.bind_ok_iff, bitPatch_ok_iff]
    constructor
    · rintro ⟨n, hindex, k, hmask, index, mask, rfl, rfl, hm⟩
      exact ⟨index, hindex, mask, hmask, hm⟩
    · rintro ⟨index, hindex, mask, hmask, hm⟩
      exact ⟨index, hindex, mask, hmask, index, mask, rfl, rfl, hm⟩

theorem hasIndex_of_index? {es : Entries} {n : Int} (h : index? es = some n) :
    hasIndex es = true := by
  rw [hasIndex]
  cases hv : es.field "binary_byte_index" with
  | null => simp [index?, hv, Value.integer?] at h
  | _ => rfl

section AskedFor

variable {es : Entries} {m : Mode}

theorem AskedFor.isSingle (h : AskedFor es m) : IsSingle es := by
  cases m <;> simp_all [AskedFor, IsSingle]

theorem AskedFor.masked (h : AskedFor es m) : m.Masked := by
  rintro index mask rfl
  exact h.2.2.2.2.2

theorem AskedFor.subkey_iff (h : AskedFor es m) : m = .subkey ↔ asksSubkey es = true := by
  cases m <;> simp_all [AskedFor]

theorem AskedFor.patch_iff (h : AskedFor es m) :
    m.patch?.isSome = true ↔ asksBit es = true ∨ asksByte es = true := by
  cases m <;> simp_all [AskedFor, patch?]

theorem AskedFor.index_iff (h : AskedFor es m) :
    hasIndex es = true ↔ m.patch?.isSome = true := by
  cases m with
  | bit index mask => exact iff_of_true (hasIndex_of_index? h.2.2.2.1) rfl
  | byte index => exact iff_of_true (hasIndex_of_index? h.2.2.2) rfl
  | _ => simp [h.2.2.2, patch?]

theorem askedFor_iff_of_subkey (hsingle : IsSingle es) (hsubkey : asksSubkey es = true) :
    AskedFor es m ↔ hasIndex es = false ∧ m = .subkey := by
  have hno := isSingle_iff.mp hsingle
  cases m <;> simp_all [AskedFor]

theorem askedFor_iff_of_patch (hsingle : IsSingle es)
    (hpatch : asksBit es = true ∨ asksByte es = true) : AskedFor es m ↔
      ∃ index : Nat, index? es = some (index : Int) ∧
        if asksBit es then ∃ mask : Nat, mask? es = some (mask : Int) ∧ 0 < mask ∧ mask ≤ 255 ∧
          m = .bit index mask
        else m = .byte index := by
  have hno := isSingle_iff.mp hsingle
  cases hbit : asksBit es <;> cases m <;> simp_all [AskedFor]

theorem askedFor_iff_of_plain (hsubkey : ¬ asksSubkey es = true)
    (hpatch : ¬ (asksBit es = true ∨ asksByte es = true)) :
    AskedFor es m ↔ hasIndex es = false ∧ m = .plain := by
  cases m <;> simp_all [AskedFor]

end AskedFor

theorem ofEntries_ok_iff {es : Entries} {place : String} {m : Mode} :
    ofEntries es place = .ok m ↔ AskedFor es m := by
  rw [ofEntries_eq]
  split
  · rename_i hno
    exact iff_of_false (by simp) fun h => hno h.isSingle
  rename_i hsingle
  rw [not_not] at hsingle
  split
  · rename_i hsubkey
    rw [askedFor_iff_of_subkey hsingle hsubkey]
    cases hasIndex es <;> simp [eq_comm]
  rename_i hsubkey
  split
  · rename_i hpatch
    rw [askedFor_iff_of_patch hsingle hpatch]
    split
    · exact patchOf_ok_iff
    · rename_i hgiven
      refine iff_of_false (by simp) ?_
      rintro ⟨index, hindex, -⟩
      exact hgiven (hasIndex_of_index? hindex)
  · rename_i hpatch
    rw [askedFor_iff_of_plain hsubkey hpatch]
    cases hasIndex es <;> simp [eq_comm]

/-- The entries ask for one mode in a form that it can have. -/
structure Form (es : Entries) : Prop where
  single : IsSingle es
  index_iff : hasIndex es = true ↔ asksBit es = true ∨ asksByte es = true
  index : hasIndex es = true → ∃ index : Nat, index? es = some (index : Int)
  mask : asksBit es = true → ∃ mask : Nat, mask? es = some (mask : Int) ∧ 0 < mask ∧ mask ≤ 255

theorem exists_askedFor_iff {es : Entries} : (∃ m, AskedFor es m) ↔ Form es := by
  constructor
  · rintro ⟨m, hm⟩
    refine ⟨hm.isSingle, hm.index_iff.trans hm.patch_iff, fun hgiven => ?_, fun hbit => ?_⟩
    · have hpatch := hm.patch_iff.mp (hm.index_iff.mp hgiven)
      obtain ⟨index, hindex, -⟩ := (askedFor_iff_of_patch hm.isSingle hpatch).mp hm
      exact ⟨index, hindex⟩
    · obtain ⟨_, -, h⟩ := (askedFor_iff_of_patch hm.isSingle (.inl hbit)).mp hm
      rw [if_pos hbit] at h
      obtain ⟨mask, hmask, hpos, hle, -⟩ := h
      exact ⟨mask, hmask, hpos, hle⟩
  · rintro ⟨hsingle, hiff, hindex, hmask⟩
    by_cases hpatch : asksBit es = true ∨ asksByte es = true
    · obtain ⟨index, hi⟩ := hindex (hiff.mpr hpatch)
      by_cases hbit : asksBit es = true
      · obtain ⟨mask, hk, hpos, hle⟩ := hmask hbit
        refine ⟨.bit index mask, (askedFor_iff_of_patch hsingle hpatch).mpr ⟨index, hi, ?_⟩⟩
        rw [if_pos hbit]
        exact ⟨mask, hk, hpos, hle, rfl⟩
      · refine ⟨.byte index, (askedFor_iff_of_patch hsingle hpatch).mpr ⟨index, hi, ?_⟩⟩
        rw [if_neg hbit]
    · have hnone : hasIndex es = false := Bool.eq_false_iff.mpr (mt hiff.mp hpatch)
      by_cases hsubkey : asksSubkey es = true
      · exact ⟨.subkey, (askedFor_iff_of_subkey hsingle hsubkey).mpr ⟨hnone, rfl⟩⟩
      · exact ⟨.plain, (askedFor_iff_of_plain hsubkey hpatch).mpr ⟨hnone, rfl⟩⟩

/-- A patch with an index is asked for. -/
structure NeedsPatch (es : Entries) : Prop where
  single : IsSingle es
  patch : asksBit es = true ∨ asksByte es = true
  index : hasIndex es = true

/-- What a patch refuses can be worded: an index or a mask that is no integer, then an index below
zero, then a mask that selects no bit of a byte. -/
structure PatchWordable (es : Entries) : Prop where
  index : index? es = none → (es.field "binary_byte_index").isWritable = true
  mask : ∀ n, index? es = some n → asksBit es = true → mask? es = none →
    (es.field "bit_mask").isWritable = true
  negative : ∀ n, index? es = some n → n < 0 → (asksBit es = true → ∃ k, mask? es = some k) →
    Numeral.fits n = true
  range : ∀ n k, index? es = some n → 0 ≤ n → asksBit es = true → mask? es = some k →
    ¬ (0 < k ∧ k ≤ 255) → Numeral.fits k = true

theorem worded_bitPatch_iff {n k : Int} : Worded (bitPatch n k) ↔
    (n < 0 → Numeral.fits n = true) ∧ (0 ≤ n → ¬ (0 < k ∧ k ≤ 255) → Numeral.fits k = true) := by
  unfold bitPatch
  split
  · rename_i hn
    rw [worded_error_iff, Problem.isWritable]
    exact ⟨fun h => ⟨fun _ => h, fun hle => absurd hn (not_lt.mpr hle)⟩, fun h => h.1 hn⟩
  · rename_i hn
    split
    · rename_i hk
      exact iff_of_true (worded_ok _) ⟨fun h => absurd h hn, fun _ hno => absurd hk hno⟩
    · rename_i hk
      rw [worded_error_iff, Problem.isWritable]
      exact ⟨fun h => ⟨fun h' => absurd h' hn, fun _ _ => h⟩, fun h => h.2 (not_lt.mp hn) hk⟩

theorem worded_bytePatch_iff {n : Int} :
    Worded (bytePatch n) ↔ (n < 0 → Numeral.fits n = true) := by
  unfold bytePatch
  split
  · rename_i hn
    rw [worded_error_iff, Problem.isWritable]
    exact ⟨fun h _ => h, fun h => h hn⟩
  · rename_i hn
    exact iff_of_true (worded_ok _) fun h => absurd h hn

theorem worded_patchOf_iff {es : Entries} {place : String} :
    Worded (patchOf es place) ↔ PatchWordable es := by
  rw [patchOf, worded_bind_iff, Shape.worded_integer_iff]
  cases hbit : asksBit es with
  | false =>
    simp only [Shape.integer_ok_iff, Bool.false_eq_true, if_false, worded_bytePatch_iff]
    constructor
    · rintro ⟨hindex, hnegative⟩
      exact ⟨hindex, by simp [hbit], fun n hn hlt _ => hnegative n hn hlt, by simp [hbit]⟩
    · rintro ⟨hindex, -, hnegative, -⟩
      exact ⟨hindex, fun n hn hlt => hnegative n hn hlt (by simp [hbit])⟩
  | true =>
    simp only [Shape.integer_ok_iff, if_true, worded_bind_iff, Shape.worded_integer_iff,
      worded_bitPatch_iff]
    constructor
    · rintro ⟨hindex, hrest⟩
      refine ⟨hindex, fun n hn _ => (hrest n hn).1, fun n hn hlt hmask => ?_,
        fun n k hn hle _ hk => ((hrest n hn).2 k hk).2 hle⟩
      obtain ⟨k, hk⟩ := hmask hbit
      exact ((hrest n hn).2 k hk).1 hlt
    · rintro ⟨hindex, hmask, hnegative, hrange⟩
      exact ⟨hindex, fun n hn => ⟨hmask n hn hbit, fun k hk =>
        ⟨fun hlt => hnegative n hn hlt fun _ => ⟨k, hk⟩, fun hle => hrange n k hn hle hbit hk⟩⟩⟩

theorem worded_ofEntries_iff {es : Entries} {place : String} :
    Worded (ofEntries es place) ↔ (NeedsPatch es → PatchWordable es) := by
  rw [ofEntries_eq]
  split
  · rename_i hno
    exact iff_of_true (worded_error_iff.mpr rfl) fun h => absurd h.single hno
  rename_i hsingle
  split
  · rename_i hsubkey
    have hnone : ¬ NeedsPatch es := by
      rintro ⟨hsingle, hpatch, -⟩
      rw [isSingle_iff] at hsingle
      rcases hpatch with hbit | hbyte
      · exact hsingle.2.1 ⟨hbit, hsubkey⟩
      · exact hsingle.2.2 ⟨hbyte, hsubkey⟩
    refine iff_of_true ?_ fun h => absurd h hnone
    split
    · exact worded_error_iff.mpr rfl
    · exact worded_ok _
  split
  · rename_i hpatch
    split
    · rename_i hgiven
      have hneeds : NeedsPatch es := ⟨not_not.mp hsingle, hpatch, hgiven⟩
      rw [worded_patchOf_iff]
      exact ⟨fun h _ => h, fun h => h hneeds⟩
    · rename_i hgiven
      exact iff_of_true (worded_error_iff.mpr rfl) fun h => absurd h.index hgiven
  · rename_i hpatch
    refine iff_of_true ?_ fun h => absurd h.patch hpatch
    split
    · exact worded_error_iff.mpr rfl
    · exact worded_ok _

end Mode

/-! ## Targets -/

namespace Target

/-- The text of a key path is given. -/
def NamesKey (es : Entries) : Prop := ∃ s, es.field "key_path" = .str s ∧ s ≠ ""

/-- What entries give as the kind of the value, a double word unless they say otherwise. -/
def kindNode (es : Entries) : Value := (es.getText? "value_kind").getD (.str "DWord")

/-- One of the kinds is given. -/
def NamesKind (es : Entries) : Prop := ∃ kind : ValueKind, kindNode es = .str kind.name

/-- The name of the value that entries give, if they do. -/
def name? (es : Entries) : Option String :=
  if (es.field "value_name").isNull then none else some (es.field "value_name").text

/-- The entries of a target fit together. -/
structure Form (es : Entries) : Prop where
  keyPath : NamesKey es
  kind : NamesKind es
  mode : Mode.Form es
  /-- A subkey has no name or an empty one, and all others have a name. -/
  name : isNamed (name? es) = true ↔ Mode.asksSubkey es = false
  patch_binary : Mode.asksBit es = true ∨ Mode.asksByte es = true → kindNode es = .str "Binary"

/-- A target is the one that entries ask for. -/
structure IsAsked (t : Target) (es : Entries) : Prop where
  keyPath : es.field "key_path" = .str t.keyPath
  kind : kindNode es = .str t.kind.name
  name : t.valueName = name? es
  enabled : t.enabled = es.field "enabled_value"
  disabled : t.disabled = es.field "disabled_value"
  mode : Mode.AskedFor es t.mode

/-- What is refused first can be worded, and the name of the value can be written. -/
structure Wordable (es : Entries) : Prop where
  kind : NamesKey es → (kindNode es).isWritable = true
  patch : NamesKey es → NamesKind es → Mode.NeedsPatch es → Mode.PatchWordable es
  name : NamesKey es → NamesKind es → Mode.Form es → (es.field "value_name").isWritable = true

/-- The name as it is read. -/
def nameOf (es : Entries) : Except Problem (Option String) :=
  if (es.field "value_name").isNull then pure none
  else some <$> Shape.text (es.field "value_name")

/-- A target from its entries. -/
def ofEntries (es : Entries) (place : String) : Except Problem Target := do
  let keyPath ← keyPathOf es place
  let kind ← kindOf es place
  let mode ← Mode.ofEntries es place
  let valueName ← nameOf es
  checked ⟨keyPath, valueName, kind, es.field "enabled_value", es.field "disabled_value", mode⟩

theorem ofValue_eq (v : Value) (place : String) :
    ofValue v place = Shape.entries v place >>= fun es => ofEntries es place := by
  unfold ofValue ofEntries nameOf
  refine congrArg (Shape.entries v place >>= ·) (funext fun es => ?_)
  cases hnull : (Entries.field es "value_name").isNull <;>
    simp only [hnull, if_true, Bool.false_eq_true, if_false]

theorem keyPathOf_ok_iff {es : Entries} {place s : String} :
    keyPathOf es place = .ok s ↔ es.field "key_path" = .str s ∧ s ≠ "" := by
  unfold keyPathOf
  split
  · rename_i s' hs'
    split <;> simp_all [eq_comm]
  · simp_all

theorem worded_keyPathOf (es : Entries) (place : String) : Worded (keyPathOf es place) := by
  unfold keyPathOf
  split
  · split
    · exact worded_error_iff.mpr rfl
    · exact worded_ok _
  · exact worded_error_iff.mpr rfl

theorem name_of_ofName? {s : String} {kind : ValueKind} (h : ValueKind.ofName? s = some kind) :
    s = kind.name := by
  have := List.find?_some h
  exact (beq_iff_eq.mp this).symm

theorem kindOf_ok_iff {es : Entries} {place : String} {kind : ValueKind} :
    kindOf es place = .ok kind ↔ kindNode es = .str kind.name := by
  unfold kindOf
  have hnode : (es.getText? "value_kind").getD (.str ValueKind.dword.name) = kindNode es := rfl
  simp only [hnode]
  cases kindNode es with
  | str s =>
    simp only
    rw [Value.str.injEq]
    cases hs : ValueKind.ofName? s with
    | some kind' =>
      obtain rfl := name_of_ofName? hs
      constructor
      · rintro ⟨⟩
        rfl
      · intro hname
        have hkind := congrArg ValueKind.ofName? hname
        rw [ValueKind.ofName?_name, ValueKind.ofName?_name] at hkind
        rw [Option.some.inj hkind]
    | none =>
      refine iff_of_false (by simp) ?_
      rintro rfl
      rw [ValueKind.ofName?_name] at hs
      cases hs
  | _ => simp

theorem worded_kindOf_iff {es : Entries} {place : String} :
    Worded (kindOf es place) ↔ (kindNode es).isWritable = true := by
  unfold kindOf
  have hnode : (es.getText? "value_kind").getD (.str ValueKind.dword.name) = kindNode es := rfl
  simp only [hnode]
  cases kindNode es with
  | str s =>
    cases hs : ValueKind.ofName? s <;>
      simp [hs, worded_ok, worded_error_iff, Problem.isWritable, Value.isWritable]
  | _ => simp [worded_error_iff, Problem.isWritable]

theorem checked_of_wellFormed {t : Target} (h : t.WellFormed) : t.checked = .ok t := by
  have hnone : t.problem? = none := by
    unfold problem?
    simp only
    rw [if_neg h.keyPath_ne]
    by_cases hmode : t.mode = .subkey
    · rw [if_pos hmode, if_neg fun hname => h.name_iff.mp hname hmode]
    · have hname : isNamed t.valueName = true := h.name_iff.mpr hmode
      rw [if_neg hmode, hname, if_neg (by decide)]
      cases hpatch : t.mode.patch? with
      | none => rfl
      | some patch => simp only [h.patch_binary (by rw [hpatch]; rfl), if_true]
  rw [checked, hnone]

theorem worded_checked (t : Target) : Worded t.checked := by
  intro p hp
  unfold checked at hp
  split at hp
  · rename_i p' hproblem
    cases hp
    unfold problem? at hproblem
    simp only at hproblem
    split at hproblem
    · cases hproblem; rfl
    split at hproblem
    · split at hproblem <;> cases hproblem
      rfl
    split at hproblem
    · cases hproblem; rfl
    split at hproblem
    · split at hproblem <;> cases hproblem
      rfl
    · cases hproblem
  · cases hp

theorem nameOf_eq (es : Entries) : nameOf es =
    if (es.field "value_name").isWritable then .ok (name? es) else .error .tooManyDigits := by
  unfold nameOf name? Shape.text
  cases hnull : (es.field "value_name").isNull with
  | true =>
    have hname : es.field "value_name" = .null := by
      cases hname : es.field "value_name" <;> simp_all [Value.isNull]
    rw [hname]
    rfl
  | false => cases (es.field "value_name").isWritable <;> rfl

theorem ofEntries_ok_iff {es : Entries} {place : String} {t : Target} :
    ofEntries es place = .ok t ↔
      (es.field "value_name").isWritable = true ∧ t.IsAsked es ∧ t.WellFormed := by
  simp only [ofEntries, Except.bind_ok_iff, keyPathOf_ok_iff, kindOf_ok_iff, Mode.ofEntries_ok_iff,
    nameOf_eq]
  constructor
  · rintro ⟨keyPath, ⟨hkeyPath, -⟩, kind, hkind, mode, hmode, valueName, hname, hchecked⟩
    split at hname
    · rename_i hwritable
      cases hname
      obtain ⟨rfl, hwell⟩ := wellFormed_of_checked hchecked hmode.masked
      exact ⟨hwritable, ⟨hkeyPath, hkind, rfl, rfl, rfl, hmode⟩, hwell⟩
    · cases hname
  · rintro ⟨hwritable, ⟨hkeyPath, hkind, hname, henabled, hdisabled, hmode⟩, hwell⟩
    refine ⟨t.keyPath, ⟨hkeyPath, hwell.keyPath_ne⟩, t.kind, hkind, t.mode, hmode, name? es,
      if_pos hwritable, ?_⟩
    rw [← hname, ← henabled, ← hdisabled]
    exact checked_of_wellFormed hwell

/-- Entries ask for a target that can be exactly if they fit together. -/
theorem exists_isAsked_iff {es : Entries} :
    (∃ t : Target, t.IsAsked es ∧ t.WellFormed) ↔ Form es := by
  constructor
  · rintro ⟨t, hasked, hwell⟩
    refine ⟨⟨t.keyPath, hasked.keyPath, hwell.keyPath_ne⟩, ⟨t.kind, hasked.kind⟩,
      Mode.exists_askedFor_iff.mp ⟨t.mode, hasked.mode⟩, ?_, fun hpatch => ?_⟩
    · rw [← hasked.name, hwell.name_iff, Ne, hasked.mode.subkey_iff, Bool.not_eq_true]
    · have hbinary := hwell.patch_binary (hasked.mode.patch_iff.mpr hpatch)
      rw [hasked.kind, hbinary]
      rfl
  · rintro ⟨⟨s, hs, hne⟩, ⟨kind, hkind⟩, hmode, hname, hbinary⟩
    obtain ⟨m, hm⟩ := Mode.exists_askedFor_iff.mpr hmode
    refine ⟨⟨s, name? es, kind, es.field "enabled_value", es.field "disabled_value", m⟩,
      ⟨hs, hkind, rfl, rfl, rfl, hm⟩, hne, ?_, fun hpatch => ?_, hm.masked⟩
    · rw [hname, Ne, hm.subkey_iff, Bool.not_eq_true]
    · have hnode := Value.str.inj (hkind.symm.trans (hbinary (hm.patch_iff.mp hpatch)))
      have hbinary := (congrArg ValueKind.ofName? hnode).symm.trans (ValueKind.ofName?_name kind)
      exact (Option.some.inj hbinary).symm

theorem worded_ofEntries_iff {es : Entries} {place : String} :
    Worded (ofEntries es place) ↔ Wordable es := by
  have hname : Worded (nameOf es) ↔ (es.field "value_name").isWritable = true := by
    rw [nameOf_eq]
    cases (es.field "value_name").isWritable <;>
      simp [worded_ok, worded_error_iff, Problem.isWritable]
  simp only [ofEntries, worded_bind_iff, keyPathOf_ok_iff, kindOf_ok_iff, Mode.ofEntries_ok_iff,
    worded_keyPathOf, worded_kindOf_iff, Mode.worded_ofEntries_iff, hname, worded_checked, true_and,
    implies_true, and_true]
  constructor
  · intro h
    refine ⟨?_, ?_, ?_⟩
    · rintro ⟨s, hs⟩
      exact (h s hs).1
    · rintro ⟨s, hs⟩ ⟨kind, hkind⟩
      exact ((h s hs).2 kind hkind).1
    · rintro ⟨s, hs⟩ ⟨kind, hkind⟩ hmode
      obtain ⟨m, hm⟩ := Mode.exists_askedFor_iff.mpr hmode
      exact ((h s hs).2 kind hkind).2 m hm
  · rintro ⟨hkind, hpatch, hname⟩ s hs
    exact ⟨hkind ⟨s, hs⟩, fun kind hk => ⟨hpatch ⟨s, hs⟩ ⟨kind, hk⟩, fun m hm =>
      hname ⟨s, hs⟩ ⟨kind, hk⟩ (Mode.exists_askedFor_iff.mp ⟨m, hm⟩)⟩⟩

/-! ## Documents of targets -/

/-- What the document of a target is read as. -/
def read (v : Value) (place : String) : Except Failure Target :=
  (ofValue v place).mapError Failure.ofProblem

/-- A document is read as a target or refused with a worded problem, and the former exactly if its
entries fit together; the target is the one they ask for. -/
structure Reads (v : Value) (place : String) : Prop where
  settled : (∃ t, read v place = .ok t) ∨ ∃ p, read v place = .error (.problem p)
  accepts_iff : (∃ t, read v place = .ok t) ↔ ∃ es : Entries, v.opened = .map es ∧ Form es
  asked : ∀ t, read v place = .ok t → ∃ es : Entries, v.opened = .map es ∧ t.IsAsked es

theorem read_ok_iff {v : Value} {place : String} {t : Target} : read v place = .ok t ↔
    ∃ es : Entries, v.opened = .map es ∧ (es.field "value_name").isWritable = true ∧
      t.IsAsked es ∧ t.WellFormed := by
  rw [read, Except.mapError_ok_iff, ofValue_eq, Except.bind_ok_iff]
  simp only [ofEntries_ok_iff]
  refine exists_congr fun es => and_congr_left fun h => ?_
  have hne : es ≠ [] := by
    rintro rfl
    exact nomatch h.2.1.keyPath
  unfold Shape.entries
  cases v.opened <;> simp [eq_comm, hne]

theorem worded_ofValue_iff {v : Value} {place : String} :
    Worded (ofValue v place) ↔ ∀ es : Entries, v.opened = .map es → Wordable es := by
  rw [ofValue_eq, worded_bind_iff]
  simp only [worded_ofEntries_iff]
  unfold Shape.entries
  cases v.opened with
  | map es => simp [worded_ok]
  | null =>
    have hno : ¬ NamesKey [] := by
      rintro ⟨s, hs, -⟩
      exact nomatch hs
    have hempty : Wordable [] := ⟨fun h => absurd h hno, fun h => absurd h hno,
      fun h => absurd h hno⟩
    simp [worded_ok, hempty]
  | _ => simp [worded_error_iff, Problem.isWritable]

/-- **Documents of targets are read exactly** if what they are refused for can be worded. -/
theorem reads_iff {v : Value} {place : String} :
    Reads v place ↔ ∀ es : Entries, v.opened = .map es → Wordable es := by
  have hworded : Worded (ofValue v place) ↔ _ := worded_ofValue_iff
  rw [← hworded, ← settled_iff]
  refine ⟨Reads.settled, fun hsettled => ⟨hsettled, ?_, ?_⟩⟩
  · have hwordable := worded_ofValue_iff.mp (settled_iff.mp hsettled)
    simp only [read_ok_iff]
    constructor
    · rintro ⟨t, es, hes, -, hasked⟩
      exact ⟨es, hes, exists_isAsked_iff.mp ⟨t, hasked⟩⟩
    · rintro ⟨es, hes, hform⟩
      obtain ⟨t, hasked⟩ := exists_isAsked_iff.mpr hform
      exact ⟨t, es, hes, (hwordable es hes).name hform.keyPath hform.kind hform.mode, hasked⟩
  · intro t ht
    obtain ⟨es, hes, -, hasked, -⟩ := read_ok_iff.mp ht
    exact ⟨es, hes, hasked⟩

/-- The document of a target with a given kind. -/
def kindDocument (kind : Value) : Value :=
  .map [(.str "key_path", .str "HKLM\\Software"), (.str "value_name", .str "Mode"),
    (.str "value_kind", kind)]

theorem ofValue_kindDocument (n : Int) : ofValue (kindDocument (.int n)) "registry" =
    .error (.kindUnknown "registry" (.int n)) := rfl

/-- **A kind that is a number with too many digits is refused without a word.** -/
theorem not_reads_huge : ¬ Reads (kindDocument (.int Numeral.limit)) "registry" := by
  intro hreads
  have hwritable := settled_iff.mp hreads.settled _ (ofValue_kindDocument Numeral.limit)
  rw [Problem.isWritable, Value.isWritable, Numeral.fits, Int.natAbs_natCast,
    decide_eq_true_iff] at hwritable
  exact lt_irrefl Numeral.limit hwritable

end Target

end Provision
