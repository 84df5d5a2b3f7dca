import Provision.Choice.Reader
import Provision.Proofs.Documents

/-!
# What readers take from documents

Readers know the place of what they read, for their messages. What they make of a document does not
depend on it.

* `Value.entries?`, `Value.items?`, `Value.integer?`: a node as a map, as a list, as an integer.
* `Value.part?`: a map inside a map.
* `Catalog.features_of_ofValue`, `Configuration.sections_of_ofValue`: features are read in order.
* `Setting.exists_target_of_ofValue`, `Target.lookupKey_of_ofValue`: targets are read from their
  documents, and the text of a name is their key.
* **`Setting.row?_of_ofValue`**: a setting has the rows of its document, of several at one index the
  last, with their keys as they are written.
-/

namespace Provision

/-! ## Nodes without a place -/

namespace Value

/-- The entries of a node that is a map; an absent node has none. -/
def entries? (v : Value) : Option Entries :=
  match v.opened with
  | null => some []
  | map es => some es
  | _ => none

/-- The items of a node that is a list; an absent node has none. -/
def items? (v : Value) : Option (List Value) :=
  match v.opened with
  | null => some []
  | list vs => some vs
  | _ => none

/-- The integer that a node is, or whose numeral it is. -/
def integer? : Value → Option Int
  | int n => some n
  | str s => Numeral.anyBase? (Text.trim s)
  | _ => none

/-- A map inside a map. -/
def part? (v : Value) (key : String) : Option Entries :=
  v.entries?.bind fun es => (es.field key).entries?

end Value

namespace Shape

variable {v : Value} {place : String}

theorem entries_ok_iff {es : Entries} : entries v place = .ok es ↔ v.entries? = some es := by
  unfold entries Value.entries?
  cases v.opened <;> simp

theorem items_ok_iff {vs : List Value} : items v place = .ok vs ↔ v.items? = some vs := by
  unfold items Value.items?
  cases v.opened <;> simp

theorem integer_ok_iff {n : Int} : integer v place = .ok n ↔ v.integer? = some n := by
  unfold integer Value.integer?
  cases v with
  | str s => cases h : Numeral.anyBase? (Text.trim s) <;> simp [h]
  | _ => simp

theorem text_of_ok {s : String} (h : text v = .ok s) : s = v.text := by
  unfold text at h
  split at h <;> cases h
  rfl

theorem exists_mem_of_eachFrom {α : Type} {read : Value → String → Except Problem α} {n : Nat}
    {vs : List Value} {xs : List α} (h : eachFrom read place n vs = .ok xs) (hv : v ∈ vs) :
    ∃ x ∈ xs, ∃ p, read v p = .ok x := by
  induction vs generalizing n xs with
  | nil => exact absurd hv List.not_mem_nil
  | cons v' vs ih =>
    obtain ⟨x', hx', h⟩ := Except.exists_of_bind_ok h
    obtain ⟨xs', hxs', h⟩ := Except.exists_of_bind_ok h
    cases h
    obtain rfl | hv := List.mem_cons.mp hv
    · exact ⟨x', List.mem_cons_self, _, hx'⟩
    · obtain ⟨x, hx, hread⟩ := ih hxs' hv
      exact ⟨x, List.mem_cons_of_mem _ hx, hread⟩

end Shape

/-! ## Features -/

theorem Feature.id_of_ofEntry {entry : Value × Value} {f : Feature}
    (h : Feature.ofEntry entry = .ok f) : f.id = entry.1 := by
  obtain ⟨_, -, h⟩ := Except.exists_of_bind_ok h
  obtain ⟨_, -, h⟩ := Except.exists_of_bind_ok h
  obtain ⟨_, -, h⟩ := Except.exists_of_bind_ok h
  obtain ⟨_, -, h⟩ := Except.exists_of_bind_ok h
  cases h
  rfl

theorem Catalog.features_of_ofValue {doc : Value} {catalog : Catalog}
    (h : Catalog.ofValue doc = .ok catalog) :
    ∃ features, doc.part? "features" = some features ∧
      features.mapM Feature.ofEntry = .ok catalog.features := by
  cases doc with
  | map es =>
    have hread : Catalog.ofEntries es = .ok catalog := Except.mapError_ok_iff.mp h
    obtain ⟨features, hfeatures, hread⟩ := Except.exists_of_bind_ok hread
    obtain ⟨fs, hfs, hread⟩ := Except.exists_of_bind_ok hread
    cases hread
    exact ⟨features, Shape.entries_ok_iff.mp hfeatures, hfs⟩
  | _ => cases h

theorem ChoiceSection.feature_of_ofEntry {group : String} {entry : Value × Value}
    {sec : ChoiceSection} (h : ChoiceSection.ofEntry group entry = .ok sec) :
    sec.feature = entry.1.text := by
  obtain ⟨feature, hfeature, h⟩ := Except.exists_of_bind_ok h
  obtain ⟨_, -, h⟩ := Except.exists_of_bind_ok h
  obtain ⟨_, -, h⟩ := Except.exists_of_bind_ok h
  cases h
  exact Shape.text_of_ok hfeature

theorem ChoiceGroup.sections_of_ofValue {name key : String} {v : Value} {g : ChoiceGroup}
    (h : ChoiceGroup.ofValue name key v = .ok g) :
    ∃ features, v.part? "features" = some features ∧
      features.mapM (ChoiceSection.ofEntry key) = .ok g.sections := by
  obtain ⟨es, hes, h⟩ := Except.exists_of_bind_ok h
  obtain ⟨features, hfeatures, h⟩ := Except.exists_of_bind_ok h
  obtain ⟨sections, hsections, h⟩ := Except.exists_of_bind_ok h
  cases h
  rw [Value.part?, Shape.entries_ok_iff.mp hes]
  exact ⟨features, Shape.entries_ok_iff.mp hfeatures, hsections⟩

/-- The names of the groups in a document of a configuration. -/
def Configuration.groupKeys : List String := ["optimize", "customize"]

/-- The features that a group in a document of a configuration lists. -/
def Value.chosenFeatures? (doc : Value) (group : String) : Option Entries :=
  doc.entries?.bind fun es => (es.field group).part? "features"

/-- Each feature that a group lists is a section of it. -/
theorem Configuration.exists_section_of_ofValue {doc : Value} {config : Configuration}
    (h : Configuration.ofValue doc = .ok config) {group : String} (hgroup : group ∈ groupKeys)
    {features : Entries} (hfeatures : doc.chosenFeatures? group = some features)
    {entry : Value × Value} (hentry : entry ∈ features) :
    ∃ g ∈ config.groups, ∃ sec ∈ g.sections, ChoiceSection.ofEntry group entry = .ok sec := by
  cases doc with
  | map es =>
    have h : Configuration.ofEntries es = .ok config := Except.mapError_ok_iff.mp h
    obtain ⟨_, -, h⟩ := Except.exists_of_bind_ok h
    obtain ⟨_, -, h⟩ := Except.exists_of_bind_ok h
    obtain ⟨optimize, hoptimize, h⟩ := Except.exists_of_bind_ok h
    obtain ⟨customize, hcustomize, h⟩ := Except.exists_of_bind_ok h
    obtain ⟨_, -, h⟩ := Except.exists_of_bind_ok h
    cases h
    have hgroups : ∀ name g, ChoiceGroup.ofValue name group (Entries.field es group) = .ok g →
        ∃ sec ∈ g.sections, ChoiceSection.ofEntry group entry = .ok sec := by
      intro name g hg
      obtain ⟨features', hfeatures', hread⟩ := ChoiceGroup.sections_of_ofValue hg
      obtain rfl : features' = features := Option.some.inj (hfeatures'.symm.trans hfeatures)
      exact Except.exists_mem_of_mapM hread hentry
    simp only [groupKeys, List.mem_cons, List.not_mem_nil, or_false] at hgroup
    rcases hgroup with rfl | rfl
    · exact ⟨optimize, by simp [groups], hgroups _ _ hoptimize⟩
    · exact ⟨customize, by simp [groups], hgroups _ _ hcustomize⟩
  | _ => cases h

/-! ## Settings -/

/-- The targets that a document of a setting lists. -/
def Value.targets? (doc : Value) : Option (List Value) :=
  doc.entries?.bind fun es => (es.field "registry").items?

/-- The row that a document of a setting has at an index; of several the last. -/
def Value.row? (doc : Value) (index : Int) : Option Entries :=
  (doc.part? "value_mappings").bind fun rows =>
    (rows.reverse.find? fun e => e.1.integer? == some index).bind fun e => e.2.entries?

namespace Setting

variable {doc : Value} {place : String} {s : Setting}

theorem parts_of_ofValue (h : Setting.ofValue doc place = .ok s) :
    ∃ es, doc.entries? = some es ∧
      (∃ p, Shape.each Target.ofValue (es.field "registry") p = .ok s.targets) ∧
      ∃ rows, (es.field "value_mappings").entries? = some rows ∧
        ∃ p, tableOfEntries p [] rows = .ok s.table := by
  obtain ⟨es, hes, h⟩ := Except.exists_of_bind_ok h
  simp only at h
  split at h
  · cases h
  obtain ⟨name, -, h⟩ := Except.exists_of_bind_ok h
  split at h
  · obtain ⟨targets, htargets, h⟩ := Except.exists_of_bind_ok h
    obtain ⟨_, -, h⟩ := Except.exists_of_bind_ok h
    obtain ⟨_, -, h⟩ := Except.exists_of_bind_ok h
    obtain ⟨_, -, h⟩ := Except.exists_of_bind_ok h
    obtain ⟨_, -, h⟩ := Except.exists_of_bind_ok h
    obtain ⟨_, -, h⟩ := Except.exists_of_bind_ok h
    obtain ⟨rows, hrows, h⟩ := Except.exists_of_bind_ok h
    obtain ⟨table, htable, h⟩ := Except.exists_of_bind_ok h
    cases h
    exact ⟨es, Shape.entries_ok_iff.mp hes, ⟨_, htargets⟩, rows, Shape.entries_ok_iff.mp hrows, _,
      htable⟩
  · cases h

theorem exists_target_of_ofValue (h : Setting.ofValue doc place = .ok s) {items : List Value}
    (hitems : doc.targets? = some items) {item : Value} (hitem : item ∈ items) :
    ∃ t ∈ s.targets, ∃ p, Target.ofValue item p = .ok t := by
  obtain ⟨es, hes, ⟨p, htargets⟩, -⟩ := parts_of_ofValue h
  obtain ⟨items', hitems', hread⟩ := Except.exists_of_bind_ok htargets
  rw [Value.targets?, hes] at hitems
  obtain rfl : items' = items :=
    Option.some.inj ((Shape.items_ok_iff.mp hitems').symm.trans hitems)
  exact Shape.exists_mem_of_eachFrom hread hitem

/-- Rows are written in turn, so that of several at one index the last stays. -/
theorem get?_of_tableOfEntries {table table' : List (Int × Entries)} {rows : Entries}
    (h : tableOfEntries place table rows = .ok table') (index : Int) :
    Table.get? (· == index) table' =
      match rows.reverse.find? fun e => e.1.integer? == some index with
      | some e => e.2.entries?
      | none => Table.get? (· == index) table := by
  induction rows generalizing table with
  | nil =>
    cases h
    rfl
  | cons e rows ih =>
    obtain ⟨key, row⟩ := e
    obtain ⟨at', hindex, h⟩ := Except.exists_of_bind_ok h
    obtain ⟨_, -, h⟩ := Except.exists_of_bind_ok h
    obtain ⟨es, hes, h⟩ := Except.exists_of_bind_ok h
    have hindex : key.integer? = some at' := Shape.integer_ok_iff.mp hindex
    have hes : row.entries? = some es := Shape.entries_ok_iff.mp hes
    rw [ih h, List.reverse_cons, List.find?_append]
    cases hlater : rows.reverse.find? fun e => e.1.integer? == some index with
    | some e => rfl
    | none =>
      by_cases heq : at' = index
      · subst heq
        have hput : Table.get? (· == at') (putRow table at' es) = some es :=
          Table.get?_put_self (by simp) es table
        simp [hindex, hes, hput]
      · have hother : ∀ k, (k == at') = true → (k == index) = false := by
          intro k hk
          simp only [beq_iff_eq, beq_eq_false_iff_ne] at hk ⊢
          omega
        have hput : Table.get? (· == index) (putRow table at' es) = Table.get? (· == index) table :=
          Table.get?_put_of_not hother (hother at' (beq_self_eq_true at')) es table
        simp [hindex, heq, hput]

/-- **A setting has the rows of its document**, of several at one index the last, with their keys as
they are written. -/
theorem row?_of_ofValue (h : Setting.ofValue doc place = .ok s) (index : Int) :
    s.row? index = doc.row? index := by
  obtain ⟨es, hes, -, rows, hrows, p, htable⟩ := parts_of_ofValue h
  rw [Setting.row?, get?_of_tableOfEntries htable, Value.row?, Value.part?, hes, Option.bind_some,
    hrows, Option.bind_some]
  cases rows.reverse.find? fun e => e.1.integer? == some index <;> rfl

end Setting

/-- The text of the name that the document of a target gives is its key, unless it is empty. -/
theorem Target.lookupKey_of_ofValue {doc : Value} {place : String} {t : Target}
    (h : Target.ofValue doc place = .ok t) {name : Value}
    (hname : doc.entries?.bind (fun es => es.getText? "value_name") = some name)
    (hnull : name.isNull = false) (htext : name.text ≠ "") : t.lookupKey = name.text := by
  obtain ⟨es, hes, h⟩ := Except.exists_of_bind_ok h
  rw [Shape.entries_ok_iff.mp hes] at hname
  have hfield : es.field "value_name" = name := by
    rw [Entries.field, show es.getText? "value_name" = some name from hname, Option.getD_some]
  obtain ⟨_, -, h⟩ := Except.exists_of_bind_ok h
  obtain ⟨_, -, h⟩ := Except.exists_of_bind_ok h
  obtain ⟨_, -, h⟩ := Except.exists_of_bind_ok h
  simp only [hfield, hnull, Bool.false_eq_true, if_false] at h
  obtain ⟨valueName, hvalueName, h⟩ := Except.exists_of_bind_ok h
  obtain ⟨text, hok, rfl⟩ := Except.exists_of_map_ok hvalueName
  obtain rfl := Shape.text_of_ok hok
  unfold Target.checked at h
  split at h <;> cases h
  simp only [Target.lookupKey, if_neg htext]

/-! ## Choices -/

/-- Values that the document of a choice brings are those of the choice, unless there are none. -/
theorem Choice.custom_of_ofValue {doc : Value} {place : String} {c : Choice}
    (h : Choice.ofValue doc place = .ok c) {values : Entries}
    (hvalues : doc.part? "customStateValues" = some values) (hne : values ≠ []) :
    c.custom = some values := by
  obtain ⟨es, hes, h⟩ := Except.exists_of_bind_ok h
  rw [Value.part?, Shape.entries_ok_iff.mp hes, Option.bind_some] at hvalues
  have hset : (es.field "customStateValues").isTruthy = true := by
    unfold Value.entries? at hvalues
    cases hv : es.field "customStateValues" with
    | knot n v => rfl
    | map es' =>
      rw [hv] at hvalues
      cases hvalues
      simpa [Value.isTruthy] using hne
    | _ =>
      rw [hv] at hvalues
      simp_all [Value.opened]
  simp only at h
  split at h
  · cases h
  obtain ⟨_, -, h⟩ := Except.exists_of_bind_ok h
  obtain ⟨_, -, h⟩ := Except.exists_of_bind_ok h
  obtain ⟨_, -, h⟩ := Except.exists_of_bind_ok h
  obtain ⟨custom, hcustom, h⟩ := Except.exists_of_bind_ok h
  obtain ⟨values', hvalues', rfl⟩ := Except.exists_of_map_ok hcustom
  cases h
  exact (Shape.entries_ok_iff.mp hvalues').symm.trans hvalues

end Provision
