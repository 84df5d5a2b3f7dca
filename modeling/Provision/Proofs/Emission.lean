import Mathlib
import Provision.Proofs.Compilable
import Provision.Proofs.Warnings
import Provision.Script.Buffer

/-!
# Commands in a buffer

The commands for one value are drafted as a whole before any of them is written, so that a value
without a literal leaves nothing behind. What can be odd about a value is reported and written all
the same, except for what has to be an integer and is none.

* `Value.isWritable_opened`: unrolling a collection that contains itself brings no new numbers.
* `Value.HoldsNoInteger`: lists with an item that is no integer; `Target.accepts_iff`: they are what
  a target refuses, as far as every number has a text.
* `Target.length_of_statements`: how many commands there are for a value.
* `Target.EmitsCleanly`: what drafting the commands for a value does to a buffer and a journal.
* **`Target.emitsCleanly`**: it does so for all targets and values whose numbers have texts.
-/

namespace Provision

/-! ## Numbers in collections that contain themselves -/

namespace Value

theorem areWritable_iff {vs : List Value} :
    areWritable vs = true ↔ ∀ v ∈ vs, v.isWritable = true := by
  induction vs with
  | nil => simp [areWritable]
  | cons v vs ih => rw [areWritable, Bool.and_eq_true, List.forall_mem_cons, ih]

mutual

theorem isWritable_fill {number : Nat} {whole : Value} (hwhole : whole.isWritable = true) :
    ∀ v : Value, v.isWritable = true → (fill number whole v).isWritable = true
  | .loop n b => by
    intro h
    rw [fill]
    split
    · exact hwhole
    · exact h
  | .knot n v => by
    intro h
    rw [fill]
    split
    · exact h
    · rw [isWritable] at h
      rw [isWritable, isWritable_fill hwhole v h]
  | .list vs => by
    intro h
    rw [isWritable] at h
    rw [fill, isWritable, areWritable_fillItems hwhole vs h]
  | .tuple vs => by
    intro h
    rw [isWritable] at h
    rw [fill, isWritable, areWritable_fillItems hwhole vs h]
  | .map es => by
    intro h
    rw [isWritable] at h
    rw [fill, isWritable, entriesAreWritable_fillEntries hwhole es h]
  | .null | .bool _ | .int _ | .float _ | .str _ | .bytes _ | .set _ | .day _ | .moment _ => by
    intro h
    simp only [fill]
    exact h

theorem areWritable_fillItems {number : Nat} {whole : Value} (hwhole : whole.isWritable = true) :
    ∀ vs : List Value, areWritable vs = true → areWritable (fillItems number whole vs) = true
  | [], _ => rfl
  | v :: vs, h => by
    rw [areWritable, Bool.and_eq_true] at h
    rw [fillItems, areWritable, isWritable_fill hwhole v h.1, areWritable_fillItems hwhole vs h.2]
    rfl

theorem entriesAreWritable_fillEntries {number : Nat} {whole : Value}
    (hwhole : whole.isWritable = true) : ∀ es : List (Value × Value),
      entriesAreWritable es = true → entriesAreWritable (fillEntries number whole es) = true
  | [], _ => rfl
  | (k, v) :: es, h => by
    simp only [entriesAreWritable, Bool.and_eq_true] at h
    simp only [fillEntries, entriesAreWritable, Bool.and_eq_true]
    exact ⟨⟨h.1.1, isWritable_fill hwhole v h.1.2⟩, entriesAreWritable_fillEntries hwhole es h.2⟩

end

theorem isWritable_opened {v : Value} (h : v.isWritable = true) : v.opened.isWritable = true := by
  cases v with
  | knot n v => exact isWritable_fill h v h
  | _ => exact h

/-- A value is a list or a tuple with an item that is no integer. -/
def HoldsNoInteger (v : Value) : Prop :=
  ∃ items, (v.opened = .list items ∨ v.opened = .tuple items) ∧
    ∃ w ∈ items, ∃ m, w.toInteger = .error m

/-- A value is an integer, which truth values are not, or a single byte. -/
def IsByte (v : Value) : Prop := (∃ n, v = .int n) ∨ ∃ b, v = .bytes [b]

theorem isSome_byteOf?_iff {v : Value} : (Literal.byteOf? v).isSome = true ↔ v.IsByte := by
  unfold Literal.byteOf? IsByte
  split <;> simp_all

theorem not_holdsNoInteger_iff {v : Value} : ¬ v.HoldsNoInteger ↔
    ∀ w ∈ Literal.elements v, ∃ n, w.toInteger = .ok n := by
  have hread : ∀ w : Value, (∃ n, w.toInteger = .ok n) ↔ ¬ ∃ m, w.toInteger = .error m := by
    intro w
    cases w.toInteger <;> simp
  unfold HoldsNoInteger Literal.elements
  simp only [hread]
  cases v.opened <;> simp

end Value

/-! ## What a target refuses -/

namespace Target

variable {t : Target} {v : Value} {description : String}

/-- All numbers that commands and notices show have texts. -/
structure HasTexts (t : Target) (v : Value) : Prop where
  /-- Those in a value that is written as text. -/
  written : t.mode = .plain → t.kind ≠ .binary → v.isWritable = true
  /-- Those in a value that is reported because it is no byte. -/
  reported : ∀ index, t.mode = .byte index → ¬ v.IsByte → v.isWritable = true
  /-- The index of a byte that is patched. -/
  index : ∀ index, (t.mode = .byte index ∨ ∃ mask, t.mode = .bit index mask) →
    Numeral.fits index = true

theorem forall_mem_itemsOf (h : v.isWritable = true) :
    ∀ w ∈ Literal.itemsOf v, w.isWritable = true := by
  have hopened := Value.isWritable_opened h
  unfold Literal.itemsOf
  cases hv : v.opened with
  | list vs | tuple vs =>
    rw [hv, Value.isWritable] at hopened
    exact Value.areWritable_iff.mp hopened
  | _ => exact List.forall_mem_singleton.mpr h

theorem fits_iff {kind : ValueKind} (h : kind ≠ .binary → v.isWritable = true) :
    Literal.Fits v kind ↔ (kind = .binary → ¬ v.HoldsNoInteger) := by
  cases kind with
  | binary => simp [Literal.Fits, Value.not_holdsNoInteger_iff]
  | multiString => simpa [Literal.Fits] using forall_mem_itemsOf (h (by decide))
  | _ => simpa [Literal.Fits] using h

/-- Where all numbers have texts, a plain target of binary data refuses lists that hold no
integers, and nothing else is refused. -/
theorem accepts_iff (h : t.HasTexts v) :
    t.Accepts v ↔ ¬ (t.mode = .plain ∧ t.kind = .binary ∧ v.HoldsNoInteger) := by
  unfold Accepts
  cases hmode : t.mode with
  | bit index mask => simpa using h.index index (.inr ⟨mask, hmode⟩)
  | byte index =>
    have hbyte : (Literal.byteOf? v).isSome = true ∨ v.isWritable = true := by
      rw [Value.isSome_byteOf?_iff]
      exact or_iff_not_imp_left.mpr (h.reported index hmode)
    simpa [hbyte] using h.index index (.inl hmode)
  | subkey => simp
  | plain => simpa using fits_iff (h.written hmode)

/-! ## Commands in a buffer -/

theorem length_of_statements {commands : List Statement}
    (h : t.statements v description = .ok commands) :
    commands.length = if t.mode = .subkey ∧ v.isEmptyText = true then 2 else 1 := by
  unfold statements statementsAt at h
  cases hmode : t.mode with
  | bit | byte =>
    simp only [hmode] at h
    obtain ⟨_, -, h⟩ := Except.exists_of_bind_ok h
    cases h
    rfl
  | subkey =>
    simp only [hmode, Except.ok.injEq] at h
    subst h
    cases v with
    | null => rfl
    | str s => by_cases hs : s = "" <;> simp [Value.isNull, Value.isEmptyText, hs]
    | _ => rfl
  | plain =>
    simp only [hmode] at h
    rw [if_neg (by simp)]
    split at h
    · cases h
      rfl
    split at h
    · cases h
      rfl
    · obtain ⟨_, -, h⟩ := Except.exists_of_bind_ok h
      cases h
      rfl

theorem warningsIn_anomaly?_of_not_isByte {index : Nat} (hmode : t.mode = .byte index)
    (h : ¬ v.IsByte) : (warningsIn ((t.anomaly? v).toList.map Notice.entry)).length = 1 := by
  have hnone : Literal.byteOf? v = none := by
    rwa [← Value.isSome_byteOf?_iff, Bool.not_eq_true, Option.isSome_eq_false_iff,
      Option.isNone_iff_eq_none] at h
  simp [anomaly?, hmode, Literal.byte, hnone, warningsIn, Notice.entry, Entry.warning?]

theorem anomaly?_eq_none_iff :
    t.anomaly? v = none ↔ ¬ ((∃ index, t.mode = .byte index) ∧ ¬ v.IsByte) := by
  rw [← Value.isSome_byteOf?_iff]
  unfold anomaly? Literal.byte
  cases t.mode with
  | byte index => cases Literal.byteOf? v <;> simp
  | _ => simp

theorem items_draftAssignment_of_error {a : Assignment} {f : Failure}
    (h : (draftAssignment description a).outcome = .error f) :
    (draftAssignment description a).items = [] := by
  rw [List.eq_nil_iff_forall_not_mem]
  intro b hb
  rcases Draft.mem_items_bind hb with hb | ⟨_, hreport, hb⟩
  · simp [Draft.report, apply_ite Draft.items] at hb
  rcases Draft.mem_items_bind hb with hb | ⟨commands, hcommands, -⟩
  · simp at hb
  -- Nothing can fail once there are commands.
  · rw [draftAssignment, Draft.bind_eq, Draft.bind_of_ok hreport, Draft.bind_eq,
      Draft.bind_of_ok hcommands] at h
    cases h

/-- What is odd about a value is reported, and nothing else. -/
theorem notices_draftAssignment (h : t.HasTexts v) :
    (draftAssignment description ⟨t, v⟩).notices = (t.anomaly? v).toList := by
  have hreport : (Draft.report (t.anomaly? v).toList : Draft Block Unit).EndsWell := by
    rw [Draft.endsWell_report_iff, anomaly?_isWritable_iff]
    cases hmode : t.mode with
    | byte index =>
      rw [Value.isSome_byteOf?_iff]
      exact or_iff_not_imp_left.mpr (h.reported index hmode)
    | _ => trivial
  obtain ⟨_, hreport⟩ := hreport
  rw [draftAssignment, Draft.bind_eq, Draft.bind_of_ok hreport, Draft.report_of_ok hreport]
  cases t.statements v description <;> simp [Draft.lift, Draft.bind, Except.mapError]

/-- The buffer after the commands for a value were drafted for it. -/
def written (t : Target) (v : Value) (description : String) (b : Buffer) : Buffer :=
  b.runAll (Block.allSteps (draftAssignment description ⟨t, v⟩).items)

/-- The warnings about a value whose commands are drafted. -/
def warned (t : Target) (v : Value) (description : String) : List String :=
  warningsIn ((draftAssignment description ⟨t, v⟩).notices.map Notice.entry)

/-- What drafting the commands for a value comes to, for a buffer and a journal. -/
structure EmitsCleanly (t : Target) (v : Value) (description : String) (b : Buffer) : Prop where
  /-- There is one thing that cannot be written. -/
  fails_iff : (∃ f, (draftAssignment description ⟨t, v⟩).outcome = .error f) ↔
    t.mode = .plain ∧ t.kind = .binary ∧ v.HoldsNoInteger
  /-- It leaves no trace in the buffer. -/
  unchanged : ∀ f, (draftAssignment description ⟨t, v⟩).outcome = .error f →
    t.written v description b = b
  /-- Otherwise a line is added, and a second one for the empty text under a subkey. -/
  adds : (draftAssignment description ⟨t, v⟩).outcome = .ok () →
    (t.written v description b).level = b.level ∧
      ∃ added, (t.written v description b).lines = b.lines ++ added ∧
        added.length = if t.mode = .subkey ∧ v.isEmptyText = true then 2 else 1
  /-- A byte patch with what is no byte is warned about once. -/
  warns : (∃ index, t.mode = .byte index) ∧ ¬ v.IsByte → (t.warned v description).length = 1
  /-- There is no other warning. -/
  quiet : ¬ ((∃ index, t.mode = .byte index) ∧ ¬ v.IsByte) → t.warned v description = []

theorem adds_of_ok (h : (draftAssignment description ⟨t, v⟩).outcome = .ok ()) (b : Buffer) :
    ∃ added, (t.written v description b).lines = b.lines ++ added ∧
      added.length = if t.mode = .subkey ∧ v.isEmptyText = true then 2 else 1 := by
  obtain ⟨_, ⟨commands, hcommands, rfl⟩, heq⟩ := draftAssignment_of_ok h
  refine ⟨_, Buffer.lines_runAll _ _, ?_⟩
  rw [heq, Step.allLines_eq_flatMap, ← length_of_statements hcommands]
  simp [Block.allSteps, Block.steps, List.flatMap_map, Step.lines]

/-- **Commands are drafted cleanly**, for every target, value and buffer. -/
theorem emitsCleanly (h : t.HasTexts v) (description : String) (b : Buffer) :
    t.EmitsCleanly v description b where
  fails_iff := by
    have hends : (draftAssignment description ⟨t, v⟩).EndsWell ↔ t.Accepts v :=
      endsWell_draftAssignment_iff
    rw [← not_iff_not, ← accepts_iff h, ← hends, Draft.EndsWell]
    cases (draftAssignment description ⟨t, v⟩).outcome <;> simp
  unchanged f hf := by
    rw [written, items_draftAssignment_of_error hf]
    rfl
  adds hok := ⟨Buffer.level_runAll _ _, adds_of_ok hok b⟩
  warns hodd := by
    obtain ⟨⟨index, hmode⟩, hbyte⟩ := hodd
    rw [warned, notices_draftAssignment h]
    exact warningsIn_anomaly?_of_not_isByte hmode hbyte
  quiet hodd := by
    rw [warned, notices_draftAssignment h, anomaly?_eq_none_iff.mpr hodd]
    rfl

/-- Binary data of a sound scheme. -/
def soundMask (mode : Mode) : Target :=
  ⟨"HKCU\\Sound", some "Mask", .binary, .null, .null, mode⟩

/-- A buffer that holds a line. -/
def begun : Buffer := (Buffer.empty 1).runAll [.line "a"]

theorem emitsCleanly_soundMask :
    ((soundMask .plain).HasTexts (.list [.int 1, .str "x"]) ∧
      (soundMask .plain).EmitsCleanly (.list [.int 1, .str "x"]) "Mask" begun) ∧
    (soundMask (.byte 4)).HasTexts (.str "x") ∧
      (soundMask (.byte 4)).EmitsCleanly (.str "x") "Mask" begun := by
  have hplain : (soundMask .plain).HasTexts (.list [.int 1, .str "x"]) :=
    ⟨fun _ hkind => absurd rfl hkind, nofun, nofun⟩
  have hbyte : (soundMask (.byte 4)).HasTexts (.str "x") := by
    refine ⟨nofun, fun _ _ _ => rfl, ?_⟩
    rintro _ (hindex | ⟨_, hindex⟩)
    · cases hindex
      decide +kernel
    · cases hindex
  exact ⟨⟨hplain, emitsCleanly hplain "Mask" begun⟩, hbyte, emitsCleanly hbyte "Mask" begun⟩

end Target

end Provision
