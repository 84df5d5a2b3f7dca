import Provision.Choice.Reader
import Provision.Proofs.Documents
import Provision.Proofs.Gates

/-!
# Which documents compile

Documents hold values of any shape, and not every conversion on the way to the script takes every
value. The drafting of a script ends well exactly if all values that it converts can be.

* `Draft.EndsWell`: a piece of work ends well; work in parts does if its parts do.
* `Target.Accepts`: a target has a command for a value.
* `ChoiceSection.Compiles`: all values that the choices of a section ask for can be written.
* `Assembler.Compilable`: so can those of the sections, of the power plan and of the readings.
* **`Assembler.assemble_ok_iff`**: a script is assembled exactly then.
-/

namespace Provision

/-! ## Work that ends well -/

namespace Draft

variable {ω α β : Type}

/-- A piece of work ends with a value. -/
def EndsWell (d : Draft ω α) : Prop := ∃ a, d.outcome = .ok a

theorem endsWell_bind_iff {d : Draft ω α} {f : α → Draft ω β} :
    (d.bind f).EndsWell ↔ ∃ a, d.outcome = .ok a ∧ (f a).EndsWell := by
  constructor
  · rintro ⟨b, h⟩
    obtain ⟨a, ha, hb, -⟩ := exists_of_bind_ok h
    exact ⟨a, ha, b, hb⟩
  · rintro ⟨a, ha, b, hb⟩
    exact ⟨b, by rw [bind_of_ok ha]; exact hb⟩

theorem endsWell_bind_unit_iff {d : Draft ω Unit} {f : Unit → Draft ω β} :
    (d.bind f).EndsWell ↔ d.EndsWell ∧ (f ()).EndsWell := by
  rw [endsWell_bind_iff]
  exact ⟨fun ⟨a, ha, h⟩ => ⟨⟨a, ha⟩, h⟩, fun ⟨⟨a, ha⟩, h⟩ => ⟨a, ha, h⟩⟩

theorem endsWell_pure (a : α) : (⟨.ok a, [], []⟩ : Draft ω α).EndsWell := ⟨a, rfl⟩

theorem endsWell_write (items : List ω) : (write items).EndsWell := ⟨(), rfl⟩

theorem endsWell_report_iff {notices : List Notice} :
    (report notices : Draft ω Unit).EndsWell ↔ ∀ n ∈ notices, n.isWritable = true := by
  unfold report EndsWell
  split
  · rename_i h
    exact iff_of_true ⟨(), rfl⟩ (List.all_eq_true.mp h)
  · rename_i h
    exact iff_of_false (fun ⟨_, he⟩ => nomatch he) fun hall => h (List.all_eq_true.mpr hall)

theorem outcome_reported_iff {r : α × List Notice} {a : α} :
    (reported r : Draft ω α).outcome = .ok a ↔
      a = r.1 ∧ ∀ n ∈ r.2, n.isWritable = true := by
  rw [← endsWell_report_iff (ω := ω)]
  constructor
  · intro h
    obtain ⟨u, hu, -⟩ := exists_of_bind_ok h
    exact ⟨(reported_of_ok h).1, u, hu⟩
  · rintro ⟨rfl, u, hu⟩
    rw [reported, bind_of_ok hu]
    rfl

theorem endsWell_each_iff {f : α → Draft ω Unit} {xs : List α} :
    (each f xs).EndsWell ↔ ∀ x ∈ xs, (f x).EndsWell := by
  induction xs with
  | nil => exact iff_of_true ⟨(), rfl⟩ fun x hx => absurd hx List.not_mem_nil
  | cons x xs ih => rw [each, endsWell_bind_unit_iff, ih, List.forall_mem_cons]

theorem endsWell_add_iff {d d' : Draft ω Nat} :
    (d >>= fun n => d' >>= fun m => pure (n + m)).EndsWell ↔ d.EndsWell ∧ d'.EndsWell := by
  rw [bind_eq, endsWell_bind_iff]
  constructor
  · rintro ⟨n, hn, hrest⟩
    obtain ⟨m, hm, -⟩ := endsWell_bind_iff.mp hrest
    exact ⟨⟨n, hn⟩, m, hm⟩
  · rintro ⟨⟨n, hn⟩, m, hm⟩
    exact ⟨n, hn, endsWell_bind_iff.mpr ⟨m, hm, endsWell_pure _⟩⟩

end Draft

/-! ## Literals and targets -/

namespace Literal

/-- The items of a list that have to be integers in binary data. -/
def elements (v : Value) : List Value :=
  match v.opened with
  | .list vs => vs
  | .tuple vs => vs
  | _ => []

/-- A value has a literal in the notation of a kind. -/
def Fits (v : Value) : ValueKind → Prop
  | .binary => ∀ w ∈ elements v, ∃ n, w.toInteger = .ok n
  | .multiString => ∀ w ∈ itemsOf v, w.isWritable = true
  | _ => v.isWritable = true

theorem quoteValue?_ok_iff {v : Value} :
    (∃ l, quoteValue? v = .ok l) ↔ v.isWritable = true := by
  unfold quoteValue? Value.text?
  cases v.isWritable <;> simp [Except.map]

theorem integers_eq_mapM (vs : List Value) : integers vs = vs.mapM Value.toInteger := by
  induction vs with
  | nil => rfl
  | cons v vs ih => rw [integers, ih, List.mapM_cons]

theorem map_ok_iff {α β : Type} {r : Except Misfit α} {f : α → β} :
    (∃ b, r.map f = .ok b) ↔ ∃ a, r = .ok a := by
  cases r <;> simp [Except.map]

theorem number_ok_iff {v : Value} : (∃ l, number v = .ok l) ↔ v.isWritable = true := by
  unfold number
  split
  · exact iff_of_true ⟨_, rfl⟩ rfl
  · unfold Value.text?
    split <;> rename_i h <;> simp [h]
  · split <;> exact iff_of_true ⟨_, rfl⟩ rfl
  · exact quoteValue?_ok_iff

theorem binary_ok_iff {v : Value} :
    (∃ l, binary v = .ok l) ↔ ∀ w ∈ elements v, ∃ n, w.toInteger = .ok n := by
  unfold binary elements
  cases v.opened with
  | list vs | tuple vs =>
    dsimp only
    rw [map_ok_iff, integers_eq_mapM, Except.exists_mapM_ok_iff]
  | _ => exact iff_of_true ⟨_, rfl⟩ fun w hw => absurd hw List.not_mem_nil

theorem texts_ok_iff {v : Value} :
    (∃ l, texts v = .ok l) ↔ ∀ w ∈ itemsOf v, w.isWritable = true := by
  rw [texts, map_ok_iff, Except.exists_mapM_ok_iff]
  simp only [quoteValue?_ok_iff]

/-- What is absent fits every kind. -/
theorem fits_null (kind : ValueKind) : Fits .null kind := by
  cases kind with
  | binary => exact fun w hw => absurd hw List.not_mem_nil
  | multiString => exact List.forall_mem_singleton.mpr rfl
  | _ => rfl

/-- **A value has a literal exactly if it fits the kind.** -/
theorem value_ok_iff {v : Value} {kind : ValueKind} :
    (∃ l, value v kind = .ok l) ↔ Fits v kind := by
  unfold value
  split
  · exact iff_of_true ⟨_, rfl⟩ (fits_null kind)
  · cases kind with
    | dword | qword => exact number_ok_iff
    | binary => exact binary_ok_iff
    | multiString => exact texts_ok_iff
    | string | expandString => exact quoteValue?_ok_iff
    | untyped =>
      dsimp only
      split
      · exact iff_of_true ⟨_, rfl⟩ rfl
      · exact quoteValue?_ok_iff

end Literal

namespace Target

/-- A target has a command for a value: an index of a byte has few enough digits, what is no byte
can be reported, and what is written has a literal. -/
def Accepts (t : Target) (v : Value) : Prop :=
  match t.mode with
  | .bit index _ => Numeral.fits index = true
  | .byte index => Numeral.fits index = true ∧
    ((Literal.byteOf? v).isSome = true ∨ v.isWritable = true)
  | .subkey => True
  | .plain => Literal.Fits v t.kind

theorem requireDigits_bind_ok_iff {index : Nat} {α : Type} {f : Unit → Except Misfit α} :
    (∃ a, (requireDigits index >>= f) = .ok a) ↔
      Numeral.fits index = true ∧ ∃ a, f () = .ok a := by
  unfold requireDigits
  split
  · rename_i h
    exact (and_iff_right h).symm
  · rename_i h
    exact iff_of_false (fun ⟨_, he⟩ => nomatch he) fun hf => h hf.1

theorem fits_of_isEmptyText {v : Value} (h : v.isEmptyText = true) (kind : ValueKind) :
    Literal.Fits v kind := by
  cases v with
  | str s =>
    cases kind with
    | binary => exact fun w hw => absurd hw List.not_mem_nil
    | multiString => exact List.forall_mem_singleton.mpr rfl
    | _ => rfl
  | _ => cases h

theorem fits_of_isNull {v : Value} (h : v.isNull = true) (kind : ValueKind) :
    Literal.Fits v kind := by
  cases v with
  | null => exact Literal.fits_null kind
  | _ => cases h

theorem statements_ok_iff {t : Target} {v : Value} {description : String} :
    (∃ commands, t.statements v description = .ok commands) ↔
      match t.mode with
      | .bit index _ => Numeral.fits index = true
      | .byte index => Numeral.fits index = true
      | .subkey => True
      | .plain => Literal.Fits v t.kind := by
  unfold statements statementsAt
  cases t.mode with
  | bit index mask => exact requireDigits_bind_ok_iff.trans (and_iff_left ⟨_, rfl⟩)
  | byte index => exact requireDigits_bind_ok_iff.trans (and_iff_left ⟨_, rfl⟩)
  | subkey => exact iff_of_true ⟨_, rfl⟩ trivial
  | plain =>
    dsimp only
    split
    · exact iff_of_true ⟨_, rfl⟩ (fits_of_isNull ‹_› _)
    split
    · exact iff_of_true ⟨_, rfl⟩ (fits_of_isEmptyText ‹_› _)
    · rw [← Literal.value_ok_iff]
      cases Literal.value v t.kind <;> simp [bind, Except.bind, pure, Except.pure]

theorem anomaly?_isWritable_iff {t : Target} {v : Value} :
    (∀ n ∈ (t.anomaly? v).toList, n.isWritable = true) ↔
      match t.mode with
      | .byte _ => (Literal.byteOf? v).isSome = true ∨ v.isWritable = true
      | _ => True := by
  unfold anomaly? Literal.byte
  cases t.mode with
  | byte index => cases Literal.byteOf? v <;> simp [Notice.isWritable]
  | _ => simp

end Target

/-- **The commands for a value are drafted exactly if the target accepts it.** -/
theorem endsWell_draftAssignment_iff {description : String} {a : Assignment} :
    (draftAssignment description a).EndsWell ↔ a.target.Accepts a.value := by
  have hsplit : (draftAssignment description a).EndsWell ↔
      (∀ n ∈ (a.target.anomaly? a.value).toList, n.isWritable = true) ∧
        ∃ commands, a.target.statements a.value description = .ok commands := by
    rw [draftAssignment, Draft.bind_eq, Draft.endsWell_bind_unit_iff, Draft.endsWell_report_iff,
      Draft.bind_eq, Draft.endsWell_bind_iff]
    simp only [Draft.lift_ok_iff, Draft.endsWell_write, and_true]
  rw [hsplit, Target.anomaly?_isWritable_iff, Target.statements_ok_iff, Target.Accepts]
  cases a.target.mode <;> simp [and_comm]

/-! ## Choices -/

/-- The index that a row of values holds for power settings is not infinite, and can be written. -/
def Entries.PowerFits (values : Entries) : Prop :=
  (values.field powerIndexKey).toInteger ≠ .error .infinite ∧
    ∀ n, (values.field powerIndexKey).toInteger = .ok n → Numeral.fits n = true

namespace Setting

variable {s : Setting} {c : Choice} {phase : Phase}

/-- An index that the table lacks can be reported. -/
def IndexFits (s : Setting) (c : Choice) : Prop :=
  ∀ index, c.custom = none → c.index = some index → s.table ≠ [] → s.row? index = none →
    Numeral.fits index = true

/-- The names of values that belong to nothing can be reported. -/
def NamesFit (s : Setting) (c : Choice) : Prop :=
  ∀ values, (s.chosenValues c).1 = some values → ∀ e ∈ values, s.isMatched e.1 = false →
    e.1.isWritable = true

theorem chosenValues_isWritable_iff :
    (∀ n ∈ (s.chosenValues c).2, n.isWritable = true) ↔ s.IndexFits c := by
  unfold chosenValues IndexFits
  cases hcustom : c.custom with
  | some values => simp
  | none =>
    cases hindex : c.index with
    | none => simp [Notice.isWritable]
    | some index =>
      cases htable : s.table with
      | nil => simp [Notice.isWritable]
      | cons row rows => cases hrow : s.row? index <;> simp [Notice.isWritable, hrow]

theorem unmatched_isWritable_iff {values : Entries} :
    (∀ n ∈ s.unmatched values, n.isWritable = true) ↔
      ∀ e ∈ values, s.isMatched e.1 = false → e.1.isWritable = true := by
  simp only [unmatched, List.forall_mem_map, List.mem_filter, Bool.not_eq_true', Notice.isWritable,
    and_imp]

theorem assignments_isWritable_iff (hid : s.id ≠ powerPlanSetting) :
    (∀ n ∈ (s.assignments c phase).2, n.isWritable = true) ↔
      (c.kind = .selection → s.targetsFor phase ≠ [] → s.IndexFits c ∧ s.NamesFit c) := by
  rw [← chosenValues_isWritable_iff]
  unfold assignments NamesFit
  cases htargets : s.targetsFor phase with
  | nil => simp
  | cons t ts =>
    cases hkind : c.kind with
    | toggle => simp [hid]
    | powerPlan => simp
    | selection =>
      cases hvalues : (s.chosenValues c).1 with
      | none => simp [hid, hvalues]
      | some values =>
        simp [hid, hvalues, unmatched_isWritable_iff, or_imp, forall_and]

theorem powerIndex?_eq (values : Entries) :
    powerIndex? values =
      match (values.field powerIndexKey).toInteger with
      | .ok n => .ok (some n)
      | .error .infinite => .error .infinite
      | .error _ => .ok none := by
  unfold powerIndex?
  cases values.field powerIndexKey <;> rfl

theorem powerStatements_ok_iff {values : Entries} (hpower : s.power ≠ []) :
    (∃ commands, s.powerStatements values = .ok commands) ↔ values.PowerFits := by
  have hsome : s.power.isEmpty = false := by simpa using hpower
  unfold powerStatements Entries.PowerFits
  simp only [hsome, Bool.false_eq_true, if_false, powerIndex?_eq]
  cases (values.field powerIndexKey).toInteger with
  | ok n =>
    cases hfits : Numeral.fits n <;>
      simp [bind, Except.bind, pure, Except.pure, hfits, throw, throwThe, MonadExceptOf.throw]
  | error m => cases m <;> simp [bind, Except.bind, pure, Except.pure]

end Setting

/-- A payload can be placed in a phase: it is not set, or a text. -/
def Value.IsContent (v : Value) : Prop := v.isTruthy = false ∨ ∃ s, v = .str s

theorem RegistryFile.contentPhase?_ok_iff {v : Value} :
    (∃ r, contentPhase? v = .ok r) ↔ v.IsContent := by
  unfold Value.IsContent
  cases v with
  | str s => simp [contentPhase?]
  | bytes bs => cases hbs : bs.isEmpty <;> simp [contentPhase?, Value.isTruthy, hbs]
  | _ => simp only [contentPhase?]; split <;> simp_all

theorem endsWell_draftPower_iff {phase : Phase} {p : Choice × Setting} :
    (draftPower phase p).EndsWell ↔
      (asksPower phase p →
        p.2.IndexFits p.1 ∧ ((p.2.chosenValues p.1).1.getD []).PowerFits) := by
  by_cases hp : asksPower phase p
  · have hwrite : ∀ commands : List PowerStatement,
        (if commands.isEmpty = true then pure () else
          Draft.write (commands.map (Block.power p.2) ++ [.powerDone p.2.description]) :
            Draft Block Unit).EndsWell := by
      intro commands
      cases commands.isEmpty <;> exact ⟨(), rfl⟩
    obtain ⟨hkind, hphase, hpower⟩ := hp
    have hc : (decide (p.1.kind = .selection) && decide (phase = .system) &&
        !p.2.power.isEmpty) = true := by
      simp [hkind, hphase, hpower]
    rw [draftPower, if_pos hc, Draft.bind_eq, Draft.endsWell_bind_iff]
    simp only [Draft.outcome_reported_iff, Draft.bind_eq, Draft.endsWell_bind_iff,
      Draft.lift_ok_iff, hwrite, and_true, Setting.powerStatements_ok_iff hpower,
      Setting.chosenValues_isWritable_iff, and_assoc, exists_eq_left]
    exact (imp_iff_right ⟨hkind, hphase, hpower⟩).symm
  · rw [draftPower_of_not_asksPower hp]
    exact iff_of_true (Draft.endsWell_pure ()) fun h => absurd h hp

theorem endsWell_draftPayloads_iff {phase : Phase} {p : Choice × Setting} :
    (draftPayloads phase p).EndsWell ↔
      (p.1.kind = .toggle → ∀ y ∈ p.2.payloads, (y.contentFor p.1.isOn).IsContent) := by
  have hpayload : ∀ y : Payload, (draftPayload phase p y).EndsWell ↔
      (y.contentFor p.1.isOn).IsContent := by
    intro y
    rw [← RegistryFile.contentPhase?_ok_iff, draftPayload, Draft.bind_eq, Draft.endsWell_bind_iff]
    simp only [Draft.lift_ok_iff]
    refine exists_congr fun r => and_iff_left ?_
    -- whatever phase the payload belongs to, it is written or passed over
    rcases r with _ | ⟨content, owner⟩
    · exact Draft.endsWell_pure ()
    · dsimp only
      split
      · exact Draft.endsWell_write _
      · exact Draft.endsWell_pure ()
  unfold draftPayloads
  split
  · rename_i htoggle
    simp only [Draft.endsWell_each_iff, hpayload, htoggle, true_implies]
  · rename_i htoggle
    exact iff_of_true ⟨(), rfl⟩ fun h => absurd h htoggle

/-- **A choice is drafted exactly if all values it asks for in the phase can be written.** -/
theorem endsWell_draftChoice_iff {phase : Phase} {p : Choice × Setting}
    (hid : p.2.id ≠ powerPlanSetting) :
    (draftChoice phase p).EndsWell ↔
      (p.1.kind = .selection → p.2.targetsFor phase ≠ [] →
        p.2.IndexFits p.1 ∧ p.2.NamesFit p.1) ∧
      (∀ a ∈ (p.2.assignments p.1 phase).1, a.target.Accepts a.value) ∧
      (asksPower phase p → p.2.IndexFits p.1 ∧ ((p.2.chosenValues p.1).1.getD []).PowerFits) ∧
      (p.1.kind = .toggle → ∀ y ∈ p.2.payloads, (y.contentFor p.1.isOn).IsContent) := by
  have hlast : (if phase = .system && p.2.id = hibernationSetting then
      Draft.write [.hibernation p.1.isOn] else pure () : Draft Block Unit).EndsWell := by
    split <;> exact ⟨(), rfl⟩
  rw [← Setting.assignments_isWritable_iff hid, ← endsWell_draftPower_iff,
    ← @endsWell_draftPayloads_iff phase p, draftChoice, Draft.bind_eq, Draft.endsWell_bind_iff]
  simp only [Draft.outcome_reported_iff, Draft.bind_eq, Draft.endsWell_bind_unit_iff, hlast,
    and_true, Draft.endsWell_each_iff, endsWell_draftAssignment_iff, and_assoc,
    exists_eq_left]

/-! ## The search for entries -/

/-- What the search for an entry of a phase comes across at a choice, in order: for each payload
whether it belongs to the phase, unless the choice has an entry of another kind. -/
def encounters (phase : Phase) (p : Choice × Setting) : List (Except Misfit Bool) :=
  if !(p.2.targetsFor phase).isEmpty ||
      (phase = .system && (!p.2.tasks.isEmpty || p.2.id = hibernationSetting)) then [.ok true]
  else p.2.payloads.map fun y =>
    (RegistryFile.contentPhase? (y.contentFor p.1.isOn)).map fun r => r.any (·.2 = phase)

/-- How a search ends: with the first entry or misfit, or without an entry. -/
def searchEnd : List (Except Misfit Bool) → Except Misfit Bool
  | [] => .ok false
  | .ok true :: _ => .ok true
  | .ok false :: rest => searchEnd rest
  | .error m :: _ => .error m

theorem searchEnd_append (found more : List (Except Misfit Bool)) :
    searchEnd (found ++ more) = (do if ← searchEnd found then return true else searchEnd more) := by
  fun_induction searchEnd found with
  | case1 => rfl
  | case2 => rfl
  | case3 rest ih => exact ih
  | case4 => rfl

/-- A search ends well exactly if every misfit stands behind an entry. -/
theorem searchEnd_ok_iff {found : List (Except Misfit Bool)} :
    (∃ b, searchEnd found = .ok b) ↔
      ∀ before m after, found = before ++ .error m :: after → .ok true ∈ before := by
  fun_induction searchEnd found with
  | case1 => simp
  | case2 rest =>
    refine iff_of_true ⟨true, rfl⟩ fun before m after heq => ?_
    cases before with
    | nil => cases heq
    | cons first before =>
      obtain ⟨rfl, -⟩ := List.cons.inj heq
      exact List.mem_cons_self
  | case3 rest ih =>
    rw [ih]
    constructor
    · intro h before m after heq
      cases before with
      | nil => cases heq
      | cons first before =>
        obtain ⟨-, hrest⟩ := List.cons.inj heq
        exact List.mem_cons_of_mem _ (h before m after hrest)
    · intro h before m after heq
      have hmem := h (.ok false :: before) m after (by rw [heq]; rfl)
      simpa using hmem
  | case4 m rest =>
    refine iff_of_false (fun ⟨_, h⟩ => nomatch h) fun h => ?_
    exact absurd (h [] m rest rfl) List.not_mem_nil

theorem payloadsEnter_eq (on : Bool) (phase : Phase) (ys : List Payload) :
    payloadsEnter on phase ys = searchEnd (ys.map fun y =>
      (RegistryFile.contentPhase? (y.contentFor on)).map fun r => r.any (·.2 = phase)) := by
  induction ys with
  | nil => rfl
  | cons y ys ih =>
    rw [payloadsEnter, List.map_cons, ih]
    cases RegistryFile.contentPhase? (y.contentFor on) with
    | error m => rfl
    | ok r =>
      cases r with
      | none => rfl
      | some r =>
        by_cases h : r.2 = phase <;>
          simp [bind, Except.bind, Except.map, pure, Except.pure, searchEnd, h]

theorem entersPhase_eq (phase : Phase) (p : Choice × Setting) :
    entersPhase phase p = searchEnd (encounters phase p) := by
  unfold entersPhase encounters
  rw [payloadsEnter_eq]
  split
  · rename_i h
    simp [h, searchEnd]
  split
  · rename_i h
    simp [h, searchEnd]
  · rename_i h h'
    rw [if_neg]
    simp only [Bool.or_eq_true, not_or]
    exact ⟨h, h'⟩

theorem anyEntersPhase_eq (phase : Phase) (ps : List (Choice × Setting)) :
    anyEntersPhase phase ps = searchEnd (ps.flatMap (encounters phase)) := by
  induction ps with
  | nil => rfl
  | cons p ps ih => rw [anyEntersPhase, List.flatMap_cons, searchEnd_append, entersPhase_eq, ih]

/-! ## Sections -/

namespace ChoiceSection

variable {sec : ChoiceSection} {settings : List Setting} {phase : Phase} {label : Option String}
  {p : Choice × Setting}

/-- All values that the choices of a section ask for can be written. -/
structure Compiles (sec : ChoiceSection) (settings : List Setting) : Prop where
  /-- In the search for entries of a phase, a payload that is set and no text stands behind an
  entry. -/
  searches : ∀ phase before m after,
    (sec.defined settings).flatMap (encounters phase) = before ++ .error m :: after →
      .ok true ∈ before
  /-- What is odd about a choice among values can be reported. -/
  reports : ∀ p ∈ sec.kept settings, p.1.kind = .selection → p.2.targets ≠ [] →
    p.2.IndexFits p.1 ∧ p.2.NamesFit p.1
  /-- Every target accepts the value it gets. -/
  values : ∀ p ∈ sec.kept settings, ∀ phase, ∀ a ∈ (p.2.assignments p.1 phase).1,
    a.target.Accepts a.value
  /-- Where power settings are set, their index can be written. -/
  power : ∀ p ∈ sec.kept settings, p.1.kind = .selection → p.2.power ≠ [] →
    (∃ q ∈ sec.defined settings, entersPhase .system q = .ok true) →
      ((p.2.chosenValues p.1).1.getD []).PowerFits
  /-- What a toggle imports is not set, or a text. -/
  payloads : ∀ p ∈ sec.kept settings, p.1.kind = .toggle → ∀ y ∈ p.2.payloads,
    (y.contentFor p.1.isOn).IsContent

theorem appears_of_kept_nil (h : sec.kept settings = []) :
    sec.appears settings phase = .ok false := by
  simp [appears, h, pure, Except.pure]

/-- Whether a section is written is known in both phases exactly if the search for an entry ends
well in both. -/
theorem appears_ok_iff (hkept : sec.kept settings ≠ []) :
    (∀ phase, ∃ w, sec.appears settings phase = .ok w) ↔
      ∀ phase, ∃ b, anyEntersPhase phase (sec.defined settings) = .ok b := by
  have hempty : (sec.kept settings).isEmpty = false := by simpa using hkept
  constructor
  · intro h phase
    obtain ⟨w, hw⟩ := h phase
    rw [appears, if_neg (by simp [hempty])] at hw
    obtain ⟨b, hb, -⟩ := Except.exists_of_bind_ok hw
    exact ⟨b, hb⟩
  · intro h phase
    obtain ⟨b, hb⟩ := h phase
    obtain ⟨b', hb'⟩ := h phase.opposite
    rw [appears, if_neg (by simp [hempty])]
    simp only [hb, hb', bind, Except.bind, pure, Except.pure]
    split
    · exact ⟨_, rfl⟩
    split <;> exact ⟨_, rfl⟩

theorem endsWell_draft_iff :
    (sec.draft settings phase label).EndsWell ↔ ∃ w, sec.appears settings phase = .ok w ∧
      (w = true → ∀ p ∈ sec.kept settings, (draftChoice phase p).EndsWell) := by
  have hlookup : ∀ n ∈ sec.lookupNotices settings, n.isWritable = true :=
    isWritable_of_mem_lookupNotices
  have hempty : ∀ b : Bool, (Draft.report
      (if b = true then [Notice.sectionEmpty sec.feature phase] else []) :
        Draft Block Unit).EndsWell := by
    intro b
    rw [Draft.endsWell_report_iff]
    cases b <;> simp [Notice.isWritable]
  have hpure : ∀ b : Bool, (pure b : Draft Block Bool).EndsWell := fun b => ⟨b, rfl⟩
  have hbody : (sec.draftBody settings phase).EndsWell ↔
      ∀ p ∈ sec.kept settings, (draftChoice phase p).EndsWell := by
    rw [draftBody, Draft.bind_eq, Draft.endsWell_bind_unit_iff, Draft.endsWell_each_iff]
    exact and_iff_left (Draft.endsWell_write _)
  rw [draft, Draft.bind_eq, Draft.endsWell_bind_unit_iff, Draft.endsWell_report_iff,
    and_iff_right hlookup, Draft.bind_eq, Draft.endsWell_bind_iff]
  refine exists_congr fun w => and_congr Draft.lift_ok_iff ?_
  cases w with
  | false => exact iff_of_true (hpure false) fun h => absurd h Bool.false_ne_true
  | true =>
    simp only [if_true, Draft.bind_eq, Draft.endsWell_bind_unit_iff, hbody, hempty, hpure,
      Draft.endsWell_write, true_and, and_true, true_implies]

theorem Compiles.endsWell_draftChoice (h : sec.Compiles settings) (hp : p ∈ sec.kept settings)
    (hw : sec.appears settings phase = .ok true) : (draftChoice phase p).EndsWell := by
  refine (endsWell_draftChoice_iff (setting_id_ne hp)).mpr
    ⟨fun hkind htargets => ?_, h.values p hp phase, ?_, h.payloads p hp⟩
  · exact h.reports p hp hkind fun hnil => htargets (by rw [Setting.targetsFor, hnil]; rfl)
  · rintro ⟨hkind, rfl, hpower⟩
    have htargets := targets_ne_nil_of_mem_kept hp hpower
    have hentry := exists_entersPhase_of_appears hw (mem_defined_of_mem_kept hp) htargets
    exact ⟨(h.reports p hp hkind htargets).1, h.power p hp hkind hpower hentry⟩

theorem compiles_of_endsWell (h : ∀ phase, (sec.draft settings phase label).EndsWell)
    (hkept : sec.kept settings ≠ []) : sec.Compiles settings := by
  have happears : ∀ phase, ∃ w, sec.appears settings phase = .ok w := by
    intro phase
    obtain ⟨w, hw⟩ := h phase
    exact ⟨w, (draft_of_ok hw).1⟩
  -- a choice with an entry in a phase has its section written there
  have hchoice : ∀ p ∈ sec.kept settings, ∀ phase, entersPhase phase p ≠ .ok false →
      (draftChoice phase p).EndsWell := by
    intro p hp phase hentry
    obtain ⟨w, hw⟩ := h phase
    exact ⟨(), draftChoice_ok_of_mem_kept hw (written_of_mem_kept hw hp hentry) hp⟩
  have htarget : ∀ p ∈ sec.kept settings, ∀ phase, p.2.targetsFor phase ≠ [] →
      (draftChoice phase p).EndsWell := fun p hp phase htargets =>
    hchoice p hp phase fun hnone => htargets (of_entersPhase_false hnone).1
  refine ⟨fun phase => ?_, fun p hp hkind htargets => ?_, fun p hp phase a ha => ?_,
    fun p hp hkind hpower hentry => ?_, fun p hp htoggle y hy => ?_⟩
  · obtain ⟨b, hb⟩ := (appears_ok_iff hkept).mp happears phase
    rw [anyEntersPhase_eq] at hb
    exact searchEnd_ok_iff.mp ⟨b, hb⟩
  · obtain ⟨phase, hphase⟩ : ∃ phase, p.2.targetsFor phase ≠ [] := by
      by_contra hnone
      simp only [not_exists, not_not] at hnone
      exact htargets (p.2.targets_nil_of_targetsFor_nil (hnone .system) (hnone .user))
    exact ((endsWell_draftChoice_iff (setting_id_ne hp)).mp (htarget p hp phase hphase)).1 hkind
      hphase
  · have hphase := List.ne_nil_of_mem (Setting.mem_targetsFor_of_mem_assignments ha)
    exact ((endsWell_draftChoice_iff (setting_id_ne hp)).mp (htarget p hp phase hphase)).2.1 a ha
  · obtain ⟨q, hq, hentry⟩ := hentry
    obtain ⟨w, hw⟩ := h .system
    have hok := draftChoice_ok_of_mem_kept hw (written_of_entersPhase hw hkept hq hentry) hp
    exact (((endsWell_draftChoice_iff (setting_id_ne hp)).mp ⟨(), hok⟩).2.2.1
      ⟨hkind, rfl, hpower⟩).2
  · by_cases hnone : entersPhase .system p = .ok false
    · exact RegistryFile.contentPhase?_ok_iff.mp ((of_entersPhase_false hnone).2.2.2 y hy)
    · exact ((endsWell_draftChoice_iff (setting_id_ne hp)).mp
        (hchoice p hp .system hnone)).2.2.2 htoggle y hy

/-- **A section is drafted in both phases exactly if it compiles** or has no choice to carry out. -/
theorem endsWell_drafts_iff :
    (∀ phase, (sec.draft settings phase label).EndsWell) ↔
      (sec.kept settings ≠ [] → sec.Compiles settings) := by
  refine ⟨compiles_of_endsWell, fun h phase => endsWell_draft_iff.mpr ?_⟩
  by_cases hkept : sec.kept settings = []
  · exact ⟨false, appears_of_kept_nil hkept, nofun⟩
  have hcompiles := h hkept
  have hsearch : ∀ phase, ∃ b, anyEntersPhase phase (sec.defined settings) = .ok b := by
    intro phase
    rw [anyEntersPhase_eq]
    exact searchEnd_ok_iff.mpr (hcompiles.searches phase)
  obtain ⟨w, hw⟩ := (appears_ok_iff hkept).mpr hsearch phase
  refine ⟨w, hw, ?_⟩
  rintro rfl p hp
  exact hcompiles.endsWell_draftChoice hp hw

end ChoiceSection

/-! ## Groups -/

section Groups

variable {catalog : Catalog} {phase : Phase}

theorem endsWell_draftSection_iff {sec : ChoiceSection} :
    (draftSection catalog phase sec).EndsWell ↔
      ∀ settings, sec.active? catalog = some settings →
        (sec.draft settings phase (some (catalog.displayName sec.feature))).EndsWell := by
  unfold draftSection ChoiceSection.active?
  cases sec.isIncluded with
  | false => exact iff_of_true ⟨0, rfl⟩ nofun
  | true =>
    simp only [Bool.not_true, Bool.false_eq_true, if_false, if_true]
    cases catalog.settings? sec.feature with
    | none =>
      refine iff_of_true ?_ nofun
      rw [Draft.bind_eq, Draft.endsWell_bind_unit_iff, Draft.endsWell_report_iff]
      exact ⟨List.forall_mem_singleton.mpr rfl, 0, rfl⟩
    | some settings =>
      simp only [Option.some.injEq, forall_eq', Draft.bind_eq, Draft.endsWell_bind_iff]
      exact exists_congr fun w => and_iff_left ⟨_, rfl⟩

theorem endsWell_draftSections_iff {secs : List ChoiceSection} :
    (draftSections catalog phase secs).EndsWell ↔
      ∀ sec ∈ secs, (draftSection catalog phase sec).EndsWell := by
  induction secs with
  | nil => exact iff_of_true ⟨0, rfl⟩ fun sec hsec => absurd hsec List.not_mem_nil
  | cons sec secs ih => rw [List.forall_mem_cons, ← ih, draftSections, Draft.endsWell_add_iff]

theorem endsWell_draftGroup_iff {g : ChoiceGroup} :
    (g.draft catalog phase).EndsWell ↔
      ∀ sec ∈ g.sections, (draftSection catalog phase sec).EndsWell := by
  rw [← endsWell_draftSections_iff, ChoiceGroup.draft, Draft.bind_eq, Draft.endsWell_bind_iff]
  refine exists_congr fun n => and_iff_left ?_
  rw [Draft.bind_eq, Draft.endsWell_bind_unit_iff, Draft.endsWell_report_iff]
  exact ⟨List.forall_mem_singleton.mpr rfl, n, rfl⟩

theorem endsWell_draftGroups_iff {gs : List ChoiceGroup} :
    (draftGroups catalog phase gs).EndsWell ↔
      ∀ sec ∈ gs.flatMap ChoiceGroup.sections, (draftSection catalog phase sec).EndsWell := by
  induction gs with
  | nil => exact iff_of_true ⟨0, rfl⟩ fun sec hsec => absurd hsec List.not_mem_nil
  | cons g gs ih =>
    rw [List.flatMap_cons, List.forall_mem_append, ← ih, draftGroups]
    split
    · rename_i hempty
      rw [Draft.endsWell_add_iff, List.isEmpty_iff.mp hempty]
      exact and_congr_left' (iff_of_true ⟨0, rfl⟩ fun sec hsec => absurd hsec List.not_mem_nil)
    · rw [Draft.endsWell_add_iff, endsWell_draftGroup_iff]

end Groups

/-! ## Power -/

theorem Value.IsIndex.toInteger_ok {v : Value} (h : v.IsIndex) (hnull : v.isNull = false) :
    ∃ n, v.toInteger = .ok n := by
  obtain rfl | ⟨n, rfl⟩ := h
  · cases hnull
  · exact ⟨n, rfl⟩

theorem Readings.AreNumeric.folded {rs : Readings} (h : rs.AreNumeric) : rs.folded.AreNumeric :=
  .ofList (List.forall_mem_map.mpr h)

theorem endsWell_collectReadings {settings : List Setting} {rs : Readings} {hasBattery : Bool}
    (h : rs.AreNumeric) : (collectReadings settings rs hasBattery).EndsWell := by
  have htarget : ∀ s t, (collectTarget s rs.folded t).EndsWell := by
    intro s t
    unfold collectTarget
    cases hr : rs.folded.get? (Text.lower t.setting) with
    | none => exact Draft.endsWell_report_iff.mpr (List.forall_mem_singleton.mpr rfl)
    | some r =>
      dsimp only
      split
      · exact Draft.endsWell_report_iff.mpr (List.forall_mem_singleton.mpr rfl)
      · rename_i hnull
        obtain ⟨hac, hdc⟩ := h.folded.isNumeric_of_get? hr
        simp only [Bool.or_eq_true, not_or, Bool.not_eq_true] at hnull
        obtain ⟨ac, hac⟩ := hac.toInteger_ok hnull.1
        obtain ⟨dc, hdc⟩ := hdc.toInteger_ok hnull.2
        exact Draft.endsWell_bind_iff.mpr ⟨ac, Draft.lift_ok_iff.mpr hac,
          Draft.endsWell_bind_iff.mpr ⟨dc, Draft.lift_ok_iff.mpr hdc, Draft.endsWell_write _⟩⟩
  have hsetting : ∀ s, (collectSetting rs.folded hasBattery s).EndsWell := by
    intro s
    unfold collectSetting
    split
    · exact Draft.endsWell_write _
    split
    · exact Draft.endsWell_report_iff.mpr (List.forall_mem_singleton.mpr rfl)
    split
    · exact Draft.endsWell_report_iff.mpr (List.forall_mem_singleton.mpr rfl)
    · exact Draft.endsWell_each_iff.mpr fun t _ => htarget s t
  exact Draft.endsWell_bind_unit_iff.mpr ⟨Draft.endsWell_each_iff.mpr fun s _ => hsetting s,
    Draft.endsWell_report_iff.mpr (List.forall_mem_singleton.mpr rfl)⟩

/-- The name of a plan is a text, and its GUID can be written. -/
def PlanChoice.IsWritable (p : PlanChoice) : Prop :=
  (∃ s, p.name = .str s) ∧ p.guid.isWritable = true

theorem Choice.isTruthy_name_of_plan? {c : Choice} {p : PlanChoice} (h : c.plan? = some p) :
    p.name.isTruthy = true := by
  unfold plan? at h
  split at h
  · rename_i hguid
    cases h
    dsimp only
    split <;> assumption
  · cases h

theorem PowerSection.escapedName_ok_iff {v : Value} (h : v.isTruthy = true) :
    (∃ s, escapedName v = .ok s) ↔ ∃ s, v = .str s := by
  unfold escapedName
  rw [h]
  cases v <;> simp

theorem PowerSection.steps?_ok_iff {plan : Option PlanChoice} {values : List PowerValue}
    (hplan : ∀ p, plan = some p → p.name.isTruthy = true) :
    (∃ steps, steps? plan values = .ok steps) ↔
      (∀ p, plan = some p → p.IsWritable) ∧ ∀ v ∈ values, v.isWritable = true := by
  rw [← List.all_eq_true]
  unfold steps?
  cases plan with
  | none =>
    cases hrows : values.all PowerValue.isWritable <;> cases values <;>
      simp_all [bind, Except.bind, pure, Except.pure, throw, throwThe, MonadExceptOf.throw]
  | some p =>
    simp only [Option.some.injEq, forall_eq', PlanChoice.IsWritable,
      ← escapedName_ok_iff (hplan p rfl)]
    cases escapedName p.name <;> cases p.guid.isWritable <;>
      cases values.all PowerValue.isWritable <;>
        simp [bind, Except.bind, pure, Except.pure, throw, throwThe, MonadExceptOf.throw]

namespace Assembler

variable {a : Assembler} {config : Configuration} {snapshot : Snapshot}

theorem isTruthy_name_of_plan? {p : PlanChoice} (h : plan? config = some p) :
    p.name.isTruthy = true := by
  unfold plan? at h
  split at h
  · cases h
  split at h
  · obtain ⟨c, -, hc⟩ := Option.bind_eq_some_iff.mp h
    exact Choice.isTruthy_name_of_plan? hc
  · cases h

theorem systemPhase_ok_iff :
    (∃ body, (a.systemPhase config snapshot).outcome = .ok body) ↔
      (a.powerValues snapshot).EndsWell ∧
      (∃ steps, PowerSection.steps? (plan? config) (a.powerValues snapshot).items = .ok steps) ∧
      (draftGroups a.catalog .system config.groups).EndsWell := by
  unfold systemPhase Draft.EndsWell
  cases hvalues : (a.powerValues snapshot).outcome with
  | error e => simp [hvalues]
  | ok u =>
    cases hpower : PowerSection.steps? (plan? config) (a.powerValues snapshot).items with
    | error m => simp [hvalues, hpower]
    | ok power? =>
      cases hsections : (draftGroups a.catalog .system config.groups).outcome <;>
        simp [hvalues, hpower, hsections]

theorem userPhase_ok_iff :
    (∃ body, (a.userPhase config).outcome = .ok body) ↔
      (draftGroups a.catalog .user config.groups).EndsWell := by
  unfold userPhase Draft.EndsWell
  cases hsections : (draftGroups a.catalog .user config.groups).outcome <;> simp [hsections]

theorem assemble_ok_iff_phases :
    (∃ script, (a.assemble config snapshot).outcome = .ok script) ↔
      (∃ body, (a.systemPhase config snapshot).outcome = .ok body) ∧
        ∃ body, (a.userPhase config).outcome = .ok body := by
  unfold assemble
  cases hsystem : (a.systemPhase config snapshot).outcome with
  | error e => simp [hsystem]
  | ok system => cases huser : (a.userPhase config).outcome <;> simp [hsystem, huser]

/-- All values that documents ask for can be written. -/
structure Compilable (a : Assembler) (config : Configuration) (snapshot : Snapshot) : Prop where
  plan : ∀ p, plan? config = some p → p.IsWritable
  rows : ∀ v ∈ (a.powered snapshot.hasBattery).flatMap (·.powerRows snapshot.readings.folded),
    v.isWritable = true
  sections : ∀ sec ∈ config.sections, ∀ settings, sec.active? a.catalog = some settings →
    sec.kept settings ≠ [] → sec.Compiles settings

/-- **A script is assembled exactly if all values that the documents ask for can be written.** -/
theorem assemble_ok_iff {doc : Value} (hsnapshot : Snapshot.ofValue doc = .ok snapshot) :
    (∃ script, (a.assemble config snapshot).outcome = .ok script) ↔
      a.Compilable config snapshot := by
  have hvalues : (a.powerValues snapshot).EndsWell := by
    unfold powerValues
    split
    · exact Draft.endsWell_write _
    split
    · exact Draft.endsWell_write _
    · exact endsWell_collectReadings (Snapshot.isNumeric_of_ofValue hsnapshot)
  have hrows : (∃ steps, PowerSection.steps? (plan? config) (a.powerValues snapshot).items =
      .ok steps) ↔ (∀ p, plan? config = some p → p.IsWritable) ∧
        ∀ v ∈ (a.powered snapshot.hasBattery).flatMap (·.powerRows snapshot.readings.folded),
          v.isWritable = true := by
    obtain ⟨u, hu⟩ := hvalues
    rw [← powerValues_of_ok hu]
    exact PowerSection.steps?_ok_iff fun p => isTruthy_name_of_plan?
  have hgroups : (∀ phase, (draftGroups a.catalog phase config.groups).EndsWell) ↔
      ∀ sec ∈ config.sections, ∀ settings, sec.active? a.catalog = some settings →
        sec.kept settings ≠ [] → sec.Compiles settings := by
    constructor
    · intro h sec hsec settings hactive
      exact ChoiceSection.endsWell_drafts_iff.mp fun phase =>
        endsWell_draftSection_iff.mp (endsWell_draftGroups_iff.mp (h phase) sec hsec) settings
          hactive
    · intro h phase
      exact endsWell_draftGroups_iff.mpr fun sec hsec => endsWell_draftSection_iff.mpr
        fun settings hactive =>
          ChoiceSection.endsWell_drafts_iff.mpr (h sec hsec settings hactive) phase
  have hphases : (∀ phase, (draftGroups a.catalog phase config.groups).EndsWell) ↔
      (draftGroups a.catalog .system config.groups).EndsWell ∧
        (draftGroups a.catalog .user config.groups).EndsWell :=
    ⟨fun h => ⟨h .system, h .user⟩, fun h phase => by cases phase; exacts [h.1, h.2]⟩
  rw [assemble_ok_iff_phases, systemPhase_ok_iff, userPhase_ok_iff, and_iff_right hvalues, hrows,
    and_assoc, ← hphases, hgroups, and_assoc]
  exact ⟨fun h => ⟨h.1, h.2.1, h.2.2⟩, fun h => ⟨h.plan, h.rows, h.sections⟩⟩

end Assembler

/-! ## Documents that are read and do not compile -/

/-- Whether a catalogue and a configuration compile without a snapshot, if both are read. -/
def compiles? (catalog config : Value) : Option Bool :=
  match Catalog.ofValue catalog, Configuration.ofValue config with
  | .ok catalog, .ok config =>
    some ((Assembler.ofCatalog catalog).assemble config .empty).outcome.isOk
  | _, _ => none

/-- Documents are read and do, or do not, compile without a snapshot. -/
def ReadAnd (compiles : Assembler → Configuration → Prop) (catalog config : Value) : Prop :=
  ∃ c k, Catalog.ofValue catalog = .ok c ∧ Configuration.ofValue config = .ok k ∧
    compiles (.ofCatalog c) k

theorem readAnd_of_compiles? {catalog config : Value} {b : Bool}
    (h : compiles? catalog config = some b) :
    ReadAnd (fun a k => (a.assemble k .empty).outcome.isOk = b) catalog config := by
  unfold compiles? at h
  split at h
  · exact ⟨_, _, ‹_›, ‹_›, Option.some.inj h⟩
  · cases h

/-- A catalogue with one setting. -/
def oddCatalog (parts : Entries) : Value :=
  .map [(.str "features", .map [(.str "view", .map [(.str "settings",
    .list [.map ((.str "id", .str "odd") :: parts)])])])]

/-- A setting with binary data for on. -/
def oddBinary (data : Value) : Entries :=
  [(.str "registry", .list [.map [(.str "key_path", .str "HKLM\\Software\\Odd"),
    (.str "value_name", .str "Mask"), (.str "value_kind", .str "Binary"),
    (.str "enabled_value", data)]])]

/-- A setting with a registry file for on. -/
def oddPayload (content : Value) : Entries :=
  [(.str "reg_imports", .list [.map [(.str "enabled_content", content)]])]

/-- A setting whose only row has an index for a power setting. -/
def oddIndex (index : Value) : Entries :=
  oddBinary .null ++ [(.str "powercfg", .list [.map [(.str "subgroup_guid", .str "s"),
      (.str "setting_guid", .str "g")]]),
    (.str "value_mappings", .map [(.int 1, .map [(.str powerIndexKey, index)])])]

/-- A configuration with one choice for a feature. -/
def oddConfiguration (feature : String) (choice : Entries) : Value :=
  .map [(.str "optimize", .map [(.str "features", .map [(.str feature, .map [(.str "items",
    .list [.map choice])])])])]

/-- The choice that turns the setting on. -/
def oddOn : Value :=
  oddConfiguration "view" [(.str "id", .str "odd"), (.str "isSelected", .bool true)]

/-- The choice of its only row. -/
def oddRow : Value :=
  oddConfiguration "view" [(.str "id", .str "odd"), (.str "selectedIndex", .int 1)]

/-- The choice of a power plan. -/
def oddPlan (name : Value) : Value :=
  oddConfiguration "power" [(.str "id", .str powerPlanSetting), (.str "powerPlanGuid", .str "g"),
    (.str "powerPlanName", name)]

theorem assemble_ok_iff_binary :
    ReadAnd (fun a k => a.Compilable k .empty) (oddCatalog (oddBinary (.list [.int 1, .str "2"])))
      oddOn := by
  obtain ⟨c, k, hc, hk, hok⟩ := readAnd_of_compiles?
    (show compiles? (oddCatalog (oddBinary (.list [.int 1, .str "2"]))) oddOn = some true by
      decide +kernel)
  have hsnapshot : Snapshot.ofValue (.map []) = .ok .empty := rfl
  exact ⟨c, k, hc, hk, (Assembler.assemble_ok_iff hsnapshot).mp (isOk_iff_exists.mp hok)⟩

/-- Catalogues and configurations with an item of binary data that is no integer, a registry file
that is a list, an infinite index, and a plan whose name is a number. -/
def oddDocuments : List (Value × Value) :=
  [(oddCatalog (oddBinary (.list [.str "x"])), oddOn),
    (oddCatalog (oddPayload (.list [.str "a"])), oddOn),
    (oddCatalog (oddIndex (.float (.infinite false))), oddRow),
    (oddCatalog [], oddPlan (.int 5))]

/-- **Documents that are read need not compile**: none of these values is passed over. -/
theorem not_assemble_ok_odd :
    Snapshot.ofValue (.map []) = .ok .empty ∧ ∀ d ∈ oddDocuments,
      ReadAnd (fun a k => ¬∃ script, (a.assemble k .empty).outcome = .ok script) d.1 d.2 := by
  refine ⟨rfl, fun d hd => ?_⟩
  have hfails : ∀ d ∈ oddDocuments, compiles? d.1 d.2 = some false := by
    simp only [oddDocuments, List.forall_mem_cons]
    decide +kernel
  obtain ⟨c, k, hc, hk, hok⟩ := readAnd_of_compiles? (hfails d hd)
  refine ⟨c, k, hc, hk, fun hscript => ?_⟩
  rw [isOk_iff_exists.mpr hscript] at hok
  cases hok

end Provision
