import Mathlib
import Provision.Inspection
import Provision.Proofs.TargetDocument

/-!
# Documents without long numbers

Messages and names show numbers that stand in documents, and a number with too many digits has no
text. Where no number of a document has too many, whatever is refused in it can be worded.

* `Value.Within`: what can be reached in a value.
* `Value.FewDigits`: no number in a value has too many digits, nor does one that a text denotes.
* `Yields`: what holds of all that a reader ends with, while its refusals can be worded.
* **`Catalog.yields_ofEntries`**, **`Configuration.yields_ofEntries`**,
  **`Snapshot.yields_ofEntries`**: the readers of the three documents refuse in words.
* `Inspection.isWritable_of_mem_ofDocuments`: so do inspections.
-/

namespace Provision

/-! ## Numbers in values -/

namespace Value

/-- What can be reached in a value: in collections, and where one that contains itself is
unrolled. -/
inductive Within : Value → Value → Prop where
  | self (v : Value) : Within v v
  | list {w v : Value} {vs : List Value} (h : Within w v) (hv : v ∈ vs) : Within w (.list vs)
  | tuple {w v : Value} {vs : List Value} (h : Within w v) (hv : v ∈ vs) : Within w (.tuple vs)
  | set {w v : Value} {vs : List Value} (h : Within w v) (hv : v ∈ vs) : Within w (.set vs)
  | key {w : Value} {e : Value × Value} {es : Entries} (h : Within w e.1) (he : e ∈ es) :
    Within w (.map es)
  | entry {w : Value} {e : Value × Value} {es : Entries} (h : Within w e.2) (he : e ∈ es) :
    Within w (.map es)
  | inside {w v : Value} {n : Nat} (h : Within w v) : Within w (.knot n v)
  | unrolled {w v : Value} {n : Nat} (h : Within w (Value.knot n v).opened) : Within w (.knot n v)

/-- No number in a value has too many digits, nor does one that a text in it denotes. -/
def FewDigits (v : Value) : Prop :=
  ∀ w n, Within w v → w.integer? = some n → Numeral.fits n = true

variable {v : Value}

theorem FewDigits.fits (h : v.FewDigits) {n : Int} (hn : v.integer? = some n) :
    Numeral.fits n = true := h v n (.self v) hn

theorem FewDigits.opened (h : v.FewDigits) : v.opened.FewDigits := by
  cases v with
  | knot number v => exact fun w n hw => h w n (.unrolled hw)
  | _ => exact h

theorem fewDigits_null : FewDigits .null := by
  intro w n hw hn
  cases hw
  cases hn

theorem fewDigits_str_empty : FewDigits (.str "") := by
  intro w n hw hn
  cases hw
  have hnone : integer? (.str "") = none := by decide +kernel
  rw [hnone] at hn
  cases hn

mutual

theorem isWritable_of_fewDigits : ∀ v : Value, v.FewDigits → v.isWritable = true
  | .int _, h => h.fits rfl
  | .list vs, h => areWritable_of_fewDigits vs fun _ hv w n hw => h w n (.list hw hv)
  | .tuple vs, h => areWritable_of_fewDigits vs fun _ hv w n hw => h w n (.tuple hw hv)
  | .set vs, h => areWritable_of_fewDigits vs fun _ hv w n hw => h w n (.set hw hv)
  | .map es, h => entriesAreWritable_of_fewDigits es fun _ he =>
    ⟨fun w n hw => h w n (.key hw he), fun w n hw => h w n (.entry hw he)⟩
  | .knot _ v, h => isWritable_of_fewDigits v fun w n hw => h w n (.inside hw)
  | .null, _ | .bool _, _ | .float _, _ | .str _, _ | .bytes _, _ | .day _, _ | .moment _, _
  | .loop .., _ => rfl

theorem areWritable_of_fewDigits :
    ∀ vs : List Value, (∀ v ∈ vs, v.FewDigits) → areWritable vs = true
  | [], _ => rfl
  | v :: vs, h => by
    rw [List.forall_mem_cons] at h
    rw [areWritable, isWritable_of_fewDigits v h.1, areWritable_of_fewDigits vs h.2]
    rfl

theorem entriesAreWritable_of_fewDigits :
    ∀ es : List (Value × Value), (∀ e ∈ es, e.1.FewDigits ∧ e.2.FewDigits) →
      entriesAreWritable es = true
  | [], _ => rfl
  | (k, v) :: es, h => by
    rw [List.forall_mem_cons] at h
    rw [entriesAreWritable, isWritable_of_fewDigits k h.1.1, isWritable_of_fewDigits v h.1.2,
      entriesAreWritable_of_fewDigits es h.2]
    rfl

end

end Value

/-- The keys and values of a map are without long numbers. -/
def Entries.FewDigits (es : Entries) : Prop := ∀ e ∈ es, e.1.FewDigits ∧ e.2.FewDigits

namespace Value

theorem FewDigits.entries {es : Entries} (h : (map es).FewDigits) : es.FewDigits := fun _ he =>
  ⟨fun w n hw => h w n (.key hw he), fun w n hw => h w n (.entry hw he)⟩

theorem FewDigits.items {vs : List Value} (h : (list vs).FewDigits) : ∀ v ∈ vs, v.FewDigits :=
  fun _ hv w n hw => h w n (.list hw hv)

end Value

namespace Entries

variable {es : Entries}

theorem FewDigits.getText? (h : es.FewDigits) {key : String} {v : Value}
    (hv : es.getText? key = some v) : v.FewDigits := by
  rw [Entries.getText?, Entries.get?, Table.get?_eq_find?, Option.map_eq_some_iff] at hv
  obtain ⟨e, he, rfl⟩ := hv
  exact (h e (List.mem_of_find?_eq_some he)).2

theorem FewDigits.field (h : es.FewDigits) (key : String) : (es.field key).FewDigits := by
  unfold Entries.field
  cases hv : es.getText? key with
  | none => exact Value.fewDigits_null
  | some v => exact h.getText? hv

theorem FewDigits.isWritable_getD (h : es.FewDigits) (key : String) {fallback : Value}
    (hfallback : fallback.isWritable = true) :
    ((es.getText? key).getD fallback).isWritable = true := by
  cases hv : es.getText? key with
  | none => exact hfallback
  | some v => exact Value.isWritable_of_fewDigits v (h.getText? hv)

end Entries

/-! ## Readers -/

/-- All that a reader ends with has a property, and what it refuses can be worded. -/
structure Yields {α : Type} (x : Except Problem α) (P : α → Prop) : Prop where
  worded : Worded x
  holds : ∀ a, x = .ok a → P a

namespace Yields

variable {α β : Type} {P : α → Prop} {Q : β → Prop}

theorem ok {a : α} (h : P a) : Yields (.ok a) P :=
  ⟨worded_ok a, fun _ heq => Except.ok.inj heq ▸ h⟩

theorem error {p : Problem} (h : p.isWritable = true) : Yields (.error p) P :=
  ⟨worded_error_iff.mpr h, nofun⟩

theorem refused {p : Problem} (h : p.isWritable = true) {f : α → Except Problem β} :
    Yields ((throw p : Except Problem α) >>= f) Q := .error h

theorem bind {x : Except Problem α} {f : α → Except Problem β} (hx : Yields x P)
    (hf : ∀ a, P a → Yields (f a) Q) : Yields (x >>= f) Q := by
  refine ⟨worded_bind_iff.mpr ⟨hx.worded, fun a ha => (hf a (hx.holds a ha)).worded⟩, ?_⟩
  intro b hb
  obtain ⟨a, ha, hb⟩ := Except.exists_of_bind_ok hb
  exact (hf a (hx.holds a ha)).holds b hb

theorem map {x : Except Problem α} {f : α → β} (hx : Yields x P) (hf : ∀ a, P a → Q (f a)) :
    Yields (x.map f) Q := by
  cases x with
  | error p => exact .error (worded_error_iff.mp hx.worded)
  | ok a => exact .ok (hf a (hx.holds a rfl))

theorem mapM {x : α → Except Problem β} {as : List α} (h : ∀ a ∈ as, Yields (x a) Q) :
    Yields (as.mapM x) fun bs => ∀ b ∈ bs, Q b := by
  induction as with
  | nil => exact .ok fun b hb => absurd hb List.not_mem_nil
  | cons a as ih =>
    rw [List.forall_mem_cons] at h
    rw [List.mapM_cons]
    exact h.1.bind fun b hb => (ih h.2).bind fun bs hbs => .ok (List.forall_mem_cons.mpr ⟨hb, hbs⟩)

end Yields

namespace Shape

variable {v : Value} {place : String}

theorem yields_entries (h : v.FewDigits) : Yields (entries v place) Entries.FewDigits := by
  have hopened := h.opened
  unfold entries
  cases hv : v.opened with
  | null => exact .ok fun e he => absurd he List.not_mem_nil
  | map es => exact .ok (Value.FewDigits.entries (hv ▸ hopened))
  | _ => exact .error rfl

theorem yields_items (h : v.FewDigits) :
    Yields (items v place) fun vs => ∀ w ∈ vs, w.FewDigits := by
  have hopened := h.opened
  unfold items
  cases hv : v.opened with
  | null => exact .ok fun w hw => absurd hw List.not_mem_nil
  | list vs => exact .ok (Value.FewDigits.items (hv ▸ hopened))
  | _ => exact .error rfl

theorem yields_integer (h : v.FewDigits) :
    Yields (integer v place) fun n => Numeral.fits n = true :=
  ⟨worded_integer_iff.mpr fun _ => Value.isWritable_of_fewDigits v h,
    fun _ hn => h.fits (integer_ok_iff.mp hn)⟩

theorem yields_text (h : v.FewDigits) : Yields (text v) fun _ => True := by
  rw [text, if_pos (Value.isWritable_of_fewDigits v h)]
  exact .ok trivial

theorem yields_textOr {fallback : Value} (h : v.FewDigits) (h' : fallback.FewDigits) :
    Yields (textOr v fallback) fun _ => True := by
  unfold textOr
  split
  · exact yields_text h
  · exact yields_text h'

section Each

variable {α : Type} {P : α → Prop} {read : Value → String → Except Problem α}

theorem yields_eachFrom (hread : ∀ v place, v.FewDigits → Yields (read v place) P)
    {vs : List Value} (h : ∀ v ∈ vs, v.FewDigits) (index : Nat) :
    Yields (eachFrom read place index vs) fun xs => ∀ x ∈ xs, P x := by
  induction vs generalizing index with
  | nil => exact .ok fun x hx => absurd hx List.not_mem_nil
  | cons v vs ih =>
    rw [List.forall_mem_cons] at h
    exact (hread v _ h.1).bind fun x hx => (ih h.2 _).bind fun xs hxs =>
      .ok (List.forall_mem_cons.mpr ⟨hx, hxs⟩)

theorem yields_each (hread : ∀ v place, v.FewDigits → Yields (read v place) P)
    (h : v.FewDigits) : Yields (each read v place) fun xs => ∀ x ∈ xs, P x :=
  (yields_items h).bind fun _ hvs => yields_eachFrom hread hvs 0

end Each

end Shape

/-! ## Catalogues -/

theorem Mode.patchWordable_of_fewDigits {es : Entries} (h : es.FewDigits) :
    Mode.PatchWordable es where
  index _ := Value.isWritable_of_fewDigits _ (h.field _)
  mask _ _ _ _ := Value.isWritable_of_fewDigits _ (h.field _)
  negative _ hn _ _ := (h.field _).fits hn
  range _ _ _ _ _ hk _ := (h.field _).fits hk

theorem Target.yields_ofValue (v : Value) (place : String) (h : v.FewDigits) :
    Yields (Target.ofValue v place) fun _ => True := by
  refine ⟨Target.worded_ofValue_iff.mpr fun es hes => ?_, fun _ _ => trivial⟩
  have hfew : es.FewDigits := Value.FewDigits.entries (hes ▸ h.opened)
  exact ⟨fun _ => hfew.isWritable_getD _ rfl, fun _ _ _ => Mode.patchWordable_of_fewDigits hfew,
    fun _ _ _ => Value.isWritable_of_fewDigits _ (hfew.field _)⟩

theorem Setting.yields_taskOfValue (v : Value) (place : String) (h : v.FewDigits) :
    Yields (Setting.taskOfValue v place) fun _ => True := by
  unfold Setting.taskOfValue
  split
  · exact .ok trivial
  · refine (Shape.yields_entries h).bind fun es hes => ?_
    dsimp only
    split
    · exact Shape.yields_text (hes.field _)
    · exact .error rfl

theorem PowerTarget.yields_ofValue (v : Value) (place : String) (h : v.FewDigits) :
    Yields (PowerTarget.ofValue v place) fun _ => True := by
  refine (Shape.yields_entries h).bind fun es hes => ?_
  have hguids (sides : PowerSides) : Yields (do
      let subgroup ← Shape.text (es.field "subgroup_guid")
      let setting ← Shape.text (es.field "setting_guid")
      return (⟨subgroup, setting, sides⟩ : PowerTarget)) fun _ => True :=
    (Shape.yields_text (hes.field _)).bind fun _ _ => (Shape.yields_text (hes.field _)).bind
      fun _ _ => .ok trivial
  dsimp only
  split
  · exact .refused rfl
  · split
    · exact hguids _
    · exact hguids _
    · exact .refused rfl

theorem Payload.yields_ofValue (v : Value) (place : String) (h : v.FewDigits) :
    Yields (Payload.ofValue place v) fun _ => True :=
  (Shape.yields_entries h).bind fun _ _ => .ok trivial

theorem Setting.yields_tableOfEntries {rows : Entries} (place : String) (h : rows.FewDigits)
    (table : List (Int × Entries)) :
    Yields (Setting.tableOfEntries place table rows) fun _ => True := by
  induction rows generalizing table with
  | nil => exact .ok trivial
  | cons e rows ih =>
    obtain ⟨he, hrows⟩ := List.forall_mem_cons.mp h
    exact (Shape.yields_integer he.1).bind fun _ _ => (Shape.yields_text he.1).bind fun _ _ =>
      (Shape.yields_entries he.2).bind fun _ _ => ih hrows _

theorem Setting.yields_ofValue (v : Value) (place : String) (h : v.FewDigits) :
    Yields (Setting.ofValue v place) fun _ => True := by
  refine (Shape.yields_entries h).bind fun es hes => ?_
  dsimp only
  split
  · exact .refused rfl
  refine (Shape.yields_text (hes.field _)).bind fun name _ => ?_
  split
  · refine (Shape.yields_each Target.yields_ofValue (hes.field _)).bind fun _ _ => ?_
    refine (Shape.yields_each Setting.yields_taskOfValue (hes.field _)).bind fun _ _ => ?_
    refine (Shape.yields_items (hes.field _)).bind fun payloads hpayloads => ?_
    refine (Yields.mapM fun v hv => Payload.yields_ofValue v _ (hpayloads v hv)).bind fun _ _ => ?_
    refine (Shape.yields_each PowerTarget.yields_ofValue (hes.field _)).bind fun _ _ => ?_
    refine (Shape.yields_textOr (hes.field _) (hes.field _)).bind fun _ _ => ?_
    refine (Shape.yields_entries (hes.field _)).bind fun rows hrows => ?_
    exact (Setting.yields_tableOfEntries _ hrows []).bind fun _ _ => .ok trivial
  · exact .error (hes.isWritable_getD _ rfl)

theorem Feature.yields_ofEntry {entry : Value × Value} (hkey : entry.1.FewDigits)
    (h : entry.2.FewDigits) : Yields (Feature.ofEntry entry) fun _ => True :=
  (Shape.yields_text hkey).bind fun _ _ => (Shape.yields_entries h).bind fun _ hes =>
    (Shape.yields_textOr (hes.field _) hkey).bind fun _ _ =>
      (Shape.yields_each Setting.yields_ofValue (hes.field _)).bind fun _ _ => .ok trivial

theorem Catalog.yields_ofEntries {es : Entries} (h : es.FewDigits) :
    Yields (Catalog.ofEntries es) fun _ => True :=
  (Shape.yields_entries (h.field _)).bind fun _ hfeatures =>
    (Yields.mapM fun e he => Feature.yields_ofEntry (hfeatures e he).1 (hfeatures e he).2).bind
      fun _ _ => .ok trivial

/-! ## Configurations -/

/-- The index of a choice has few enough digits, if it has one. -/
def Choice.IndexFits (c : Choice) : Prop := ∀ n, c.index = some n → Numeral.fits n = true

/-- So has the index of each choice. -/
def Configuration.IndexesFit (config : Configuration) : Prop :=
  ∀ g ∈ config.groups, ∀ sec ∈ g.sections, ∀ c ∈ sec.items, c.IndexFits

theorem Shape.yields_integer? {v : Value} {place : String} (h : v.FewDigits) :
    Yields (Shape.integer? v place) fun index => ∀ n, index = some n → Numeral.fits n = true := by
  unfold Shape.integer?
  split
  · exact .ok nofun
  · exact (Shape.yields_integer h).map fun n hn n' heq => Option.some.inj heq ▸ hn

theorem Choice.yields_kindOf {es : Entries} (h : es.FewDigits) :
    Yields (Choice.kindOf es) fun _ => True := by
  unfold Choice.kindOf
  dsimp only
  split
  · split
    · exact .ok trivial
    · refine .error ?_
      rw [Problem.isWritable, Value.isWritable_of_fewDigits _ (h.field _),
        Value.isWritable_of_fewDigits _ (h.field _)]
      rfl
  · repeat' split
    all_goals exact .ok trivial

theorem Choice.yields_ofValue (v : Value) (place : String) (h : v.FewDigits) :
    Yields (Choice.ofValue v place) Choice.IndexFits := by
  refine (Shape.yields_entries h).bind fun es hes => ?_
  dsimp only
  split
  · exact .refused rfl
  refine (Shape.yields_text (hes.field _)).bind fun _ _ => ?_
  refine (Choice.yields_kindOf hes).bind fun _ _ => ?_
  refine (Shape.yields_integer? (hes.field _)).bind fun index hindex => ?_
  split
  · exact ((Shape.yields_entries (hes.field _)).map (Q := fun _ => True) fun _ _ => trivial).bind
      fun _ _ => .ok hindex
  · exact .ok hindex

theorem ChoiceSection.yields_ofEntry (group : String) {entry : Value × Value}
    (hkey : entry.1.FewDigits) (h : entry.2.FewDigits) :
    Yields (ChoiceSection.ofEntry group entry) fun sec => ∀ c ∈ sec.items, c.IndexFits :=
  (Shape.yields_text hkey).bind fun _ _ => (Shape.yields_entries h).bind fun _ hes =>
    (Shape.yields_each Choice.yields_ofValue (hes.field _)).bind fun _ hitems => .ok hitems

theorem ChoiceGroup.yields_ofValue (name key : String) {v : Value} (h : v.FewDigits) :
    Yields (ChoiceGroup.ofValue name key v) fun g =>
      ∀ sec ∈ g.sections, ∀ c ∈ sec.items, c.IndexFits :=
  (Shape.yields_entries h).bind fun _ hes => (Shape.yields_entries (hes.field _)).bind
    fun _ hfeatures => (Yields.mapM fun e he => ChoiceSection.yields_ofEntry key (hfeatures e he).1
      (hfeatures e he).2).bind fun _ hsections => .ok hsections

theorem RemovalItem.yields_ofValue (v : Value) (place : String) (h : v.FewDigits) :
    Yields (RemovalItem.ofValue v place) fun _ => True := by
  refine (Shape.yields_entries h).bind fun es hes => ?_
  dsimp only
  split
  · exact .refused rfl
  refine (Shape.yields_items (hes.field _)).bind fun parts hparts => ?_
  refine (Shape.yields_text (hes.field _)).bind fun _ _ => ?_
  refine (Shape.yields_text ?_).bind fun _ _ =>
    (Yields.mapM fun v hv => Shape.yields_text (hparts v hv)).bind fun _ _ => .ok trivial
  repeat' split
  · exact hes.field _
  · exact hes.field _
  · exact hes.field _
  · exact Value.fewDigits_str_empty

theorem Configuration.yields_ofEntries {es : Entries} (h : es.FewDigits) :
    Yields (Configuration.ofEntries es) Configuration.IndexesFit := by
  refine (Shape.yields_entries (h.field _)).bind fun apps happs => ?_
  refine (Shape.yields_items (happs.field _)).bind fun items hitems => ?_
  refine (ChoiceGroup.yields_ofValue _ _ (h.field _)).bind fun optimize hoptimize => ?_
  refine (ChoiceGroup.yields_ofValue _ _ (h.field _)).bind fun customize hcustomize => ?_
  refine (Shape.yields_eachFrom RemovalItem.yields_ofValue hitems 0).bind fun _ _ => .ok ?_
  exact List.forall_mem_cons.mpr ⟨hoptimize, List.forall_mem_singleton.mpr hcustomize⟩

/-! ## Snapshots -/

theorem Snapshot.yields_sideOfValue {v : Value} (place : String) (h : v.FewDigits) :
    Yields (Snapshot.sideOfValue v place) fun _ => True := by
  refine (Shape.yields_integer? h).bind fun side _ => ?_
  cases side <;> exact .ok trivial

theorem Snapshot.yields_readingOfValue {v : Value} (place : String) (h : v.FewDigits) :
    Yields (Snapshot.readingOfValue v place) fun _ => True := by
  have hopened := h.opened
  have hsides {ac dc : Value} (hac : ac.FewDigits) (hdc : dc.FewDigits) : Yields (do
      let ac ← Snapshot.sideOfValue ac (place ++ ".ac")
      let dc ← Snapshot.sideOfValue dc (place ++ ".dc")
      return (⟨ac, dc⟩ : Reading)) fun _ => True :=
    (Snapshot.yields_sideOfValue _ hac).bind fun _ _ => (Snapshot.yields_sideOfValue _ hdc).bind
      fun _ _ => .ok trivial
  unfold Snapshot.readingOfValue
  dsimp only
  split
  · rename_i es hes
    have hfew : Entries.FewDigits es := Value.FewDigits.entries (hes ▸ hopened)
    exact hsides (hfew.field _) (hfew.field _)
  · rename_i ac dc hpair
    have hitems := Value.FewDigits.items (hpair ▸ hopened)
    exact hsides (hitems ac (by simp)) (hitems dc (by simp))
  · exact .refused rfl

theorem Snapshot.yields_readingsOfEntries {entries : Entries} (h : entries.FewDigits)
    (rs : Readings) : Yields (Snapshot.readingsOfEntries rs entries) fun _ => True := by
  induction entries generalizing rs with
  | nil => exact .ok trivial
  | cons e entries ih =>
    obtain ⟨he, hentries⟩ := List.forall_mem_cons.mp h
    exact (Shape.yields_text he.1).bind fun _ _ =>
      (Snapshot.yields_readingOfValue _ he.2).bind fun _ _ => ih hentries _

theorem Snapshot.yields_planOfEntries {es : Entries} (h : es.FewDigits) :
    Yields (Snapshot.planOfEntries es) fun _ => True := by
  unfold Snapshot.planOfEntries
  dsimp only
  split
  · exact (Shape.yields_text (h.field _)).bind fun _ _ =>
      (Shape.yields_textOr (h.field _) (h.field _)).bind fun _ _ => .ok trivial
  · exact .ok trivial

theorem Snapshot.yields_ofEntries {es : Entries} (h : es.FewDigits) :
    Yields (Snapshot.ofEntries es) fun _ => True :=
  (Shape.yields_entries (h.field _)).bind fun _ hplan =>
    (Snapshot.yields_planOfEntries hplan).bind fun _ _ =>
      (Shape.yields_entries (h.field _)).bind fun _ hsettings =>
        (Snapshot.yields_readingsOfEntries hsettings []).bind fun _ _ => .ok trivial

/-! ## Inspections -/

namespace Inspection

variable {catalog : Catalog} {f : Finding}

theorem isWritable_of_mem_ofRow {place : String} {s : Setting} {c : Choice} (h : c.IndexFits)
    (hf : f ∈ ofRow place s c) : f.isWritable = true := by
  unfold ofRow at hf
  split at hf
  · cases hf
  split at hf
  · rw [List.mem_singleton.mp hf]
    rfl
  · rename_i index hindex
    split at hf
    · cases hf
    · rw [List.mem_singleton.mp hf]
      exact h index hindex

theorem isWritable_of_mem_ofItem {feature place : String} {c : Choice} (h : c.IndexFits)
    (hf : f ∈ ofItem catalog feature place c) : f.isWritable = true := by
  unfold ofItem at hf
  split at hf
  · split at hf
    · cases hf
    · rw [List.mem_singleton.mp hf]
      rfl
  split at hf
  · rw [List.mem_singleton.mp hf]
    rfl
  · obtain hidle | hrow := List.mem_append.mp hf
    · split at hidle
      · cases hidle
      · rw [List.mem_singleton.mp hidle]
        rfl
    · exact isWritable_of_mem_ofRow h hrow

theorem isWritable_of_mem_ofSection {group : String} {sec : ChoiceSection}
    (h : ∀ c ∈ sec.items, c.IndexFits) (hf : f ∈ ofSection catalog group sec) :
    f.isWritable = true := by
  unfold ofSection at hf
  dsimp only at hf
  split at hf
  · cases hf
  split at hf
  · rw [List.mem_singleton.mp hf]
    rfl
  split at hf
  · rw [List.mem_singleton.mp hf]
    rfl
  · obtain ⟨c, hc, hf⟩ := List.mem_flatMap.mp hf
    exact isWritable_of_mem_ofItem (h c hc) hf

theorem isWritable_of_mem_ofRemovals {position : Nat} {items : List RemovalItem}
    (hf : f ∈ ofRemovals position items) : f.isWritable = true := by
  induction items generalizing position with
  | nil => cases hf
  | cons item items ih =>
    rw [ofRemovals] at hf
    obtain hhere | hrest := List.mem_append.mp hf
    · split at hhere
      · rw [List.mem_singleton.mp hhere]
        rfl
      · cases hhere
    · exact ih hrest

/-- What is found about choices with short indexes can be worded. -/
theorem isWritable_of_mem_ofDocuments {config : Configuration} (h : config.IndexesFit)
    (hf : f ∈ ofDocuments catalog config) : f.isWritable = true := by
  obtain hchosen | hremoved := List.mem_append.mp hf
  · obtain ⟨g, hg, hf⟩ := List.mem_flatMap.mp hchosen
    obtain ⟨sec, hsec, hf⟩ := List.mem_flatMap.mp hf
    exact isWritable_of_mem_ofSection (h g hg sec hsec) hf
  · exact isWritable_of_mem_ofRemovals hremoved

end Inspection

end Provision
