import Mathlib
import Provision.Proofs.MissingEntry
import Provision.Proofs.Readers

/-!
# Keys that link documents

A configuration names features by the keys of the catalogue, and a row or the values of a choice
name targets by their value names. On one side of each link a key stays as the document has it, on
the other it becomes a text.

* `SharesFeature`: documents of a catalogue and a configuration list a feature under one key.
* `Catalog.feature?_iff_isText`: it is found for the section exactly if the key is a text.
* `SharesName`: documents of a setting and a choice name a value by one key.
* `Setting.resolved_iff_isText`: its target gets the value by this entry exactly if the key is a
  text.
* **`Value.links_iff_isText`**: both.
-/

namespace Provision

/-! ## Keys that are texts -/

namespace Value

/-- Whether a value is a text. -/
def isText : Value → Bool
  | str _ => true
  | _ => false

theorem sameKey_str_iff {v : Value} {s : String} : v.sameKey (.str s) = true ↔ v = .str s := by
  cases v <;> simp [sameKey, keyNumber?]

theorem str_sameKey_iff {v : Value} {s : String} : (Value.str s).sameKey v = true ↔ v = .str s := by
  cases v with
  | str s' => simpa [sameKey] using eq_comm
  | _ => simp [sameKey, keyNumber?]

theorem eq_str_of_isText {v : Value} (h : v.isText = true) : v = .str v.text := by
  cases v with
  | str s => rfl
  | _ => cases h

end Value

/-- The other entries of a map than those of a key. -/
def Entries.without (es : Entries) (key : Value) : Entries := es.filter fun e => !e.1.sameKey key

theorem Entries.getText?_without {es : Entries} {key : Value} (hkey : key.isText = false)
    (name : String) : (es.without key).getText? name = es.getText? name := by
  have hkept : ∀ k : Value, k.sameKey (.str name) = true → (!k.sameKey key) = true := by
    intro k hk
    rw [Value.sameKey_str_iff.mp hk, Bool.not_eq_true', Bool.eq_false_iff]
    intro hsame
    rw [Value.str_sameKey_iff.mp hsame] at hkey
    cases hkey
  exact Table.get?_filter_of_imp hkept es

/-! ## Features -/

/-- Documents of a catalogue and a configuration list a feature under one key. -/
structure SharesFeature (catalogDoc configDoc key : Value) (group : String)
    (feature choices : Value) : Prop where
  listed : (catalogDoc.part? "features").bind (fun es => es.get? key) = some feature
  isGroup : group ∈ Configuration.groupKeys
  chosen : ∃ features, configDoc.chosenFeatures? group = some features ∧ (key, choices) ∈ features

/-- **A feature is found for its section exactly if its key is a text.** -/
theorem Catalog.feature?_iff_isText {catalogDoc configDoc key feature choices : Value}
    {group : String} {catalog : Catalog} {config : Configuration}
    (hcatalog : Catalog.ofValue catalogDoc = .ok catalog)
    (hconfig : Configuration.ofValue configDoc = .ok config)
    (h : SharesFeature catalogDoc configDoc key group feature choices) :
    ∃ g ∈ config.groups, ∃ sec ∈ g.sections,
      ChoiceSection.ofEntry group (key, choices) = .ok sec ∧
      ((∃ f, Feature.ofEntry (key, feature) = .ok f ∧ catalog.feature? sec.feature = some f) ↔
        key.isText = true) := by
  obtain ⟨features, hfeatures, hmem⟩ := h.chosen
  obtain ⟨g, hg, sec, hsec, hread⟩ :=
    Configuration.exists_section_of_ofValue hconfig h.isGroup hfeatures hmem
  refine ⟨g, hg, sec, hsec, hread, ?_⟩
  have hname : sec.feature = key.text := ChoiceSection.feature_of_ofEntry hread
  constructor
  · rintro ⟨f, hf, hfound⟩
    have hid : f.id = key := Feature.id_of_ofEntry hf
    have hsame := List.find?_some hfound
    rw [hid, Value.sameKey_str_iff] at hsame
    rw [hsame]
    rfl
  · intro htext
    obtain ⟨entries, hentries, hmap⟩ := Catalog.features_of_ofValue hcatalog
    have hlisted := h.listed
    rw [hentries, Option.bind_some, Entries.get?, Table.get?_eq_find?] at hlisted
    obtain ⟨⟨key', feature'⟩, hfind, rfl⟩ := Option.map_eq_some_iff.mp hlisted
    rw [Value.eq_str_of_isText htext] at hfind
    have hsame := List.find?_some hfind
    have hkey' : key' = .str key.text := Value.sameKey_str_iff.mp hsame
    have hkept : ∀ e f, Feature.ofEntry e = .ok f →
        f.id.sameKey (.str key.text) = e.1.sameKey (.str key.text) := by
      intro e f hf
      rw [Feature.id_of_ofEntry hf]
    obtain ⟨f, hf, hfound⟩ := Except.find?_of_mapM hkept hmap hfind
    rw [hkey', ← Value.eq_str_of_isText htext] at hf
    refine ⟨f, hf, ?_⟩
    rw [Catalog.feature?, hname]
    exact hfound

/-! ## Values of targets -/

/-- Documents of a setting and a choice name a value by one key: one as the value name of a target,
the other in the values of the choice, or the setting itself in the row of its index. -/
structure SharesName (settingDoc choiceDoc key : Value) (c : Choice) (targetDoc : Value)
    (values : Entries) (v : Value) : Prop where
  listed : ∃ items, settingDoc.targets? = some items ∧ targetDoc ∈ items
  named : targetDoc.entries?.bind (fun es => es.getText? "value_name") = some key
  brought : c.kind ≠ .powerPlan ∧ choiceDoc.part? "customStateValues" = some values ∨
    c.kind = .selection ∧ c.custom = none ∧ c.index.bind settingDoc.row? = some values
  entry : values.get? key = some v

namespace Setting

variable {settingDoc choiceDoc key targetDoc v : Value} {values : Entries} {place place' : String}
  {s : Setting} {c : Choice} {t : Target}

theorem values?_of_sharesName (hs : Setting.ofValue settingDoc place = .ok s)
    (hc : Choice.ofValue choiceDoc place' = .ok c)
    (h : SharesName settingDoc choiceDoc key c targetDoc values v) :
    s.values? c = some values := by
  have hne : values ≠ [] := by
    rintro rfl
    have hentry := h.entry
    cases hentry
  rcases h.brought with ⟨hkind, hvalues⟩ | ⟨hkind, hcustom, hrow⟩
  · exact values?_of_custom hkind (Choice.custom_of_ofValue hc hvalues hne)
  · have hrows : s.row? = settingDoc.row? := funext fun index => row?_of_ofValue hs index
    rw [values?_of_selection hkind, chosenValues_of_row hcustom (hrows ▸ hrow)]

theorem mem_assignments_iff (hid : s.id ≠ powerPlanSetting) (hvalues : s.values? c = some values)
    (ht : t ∈ s.targets) :
    ⟨t, v⟩ ∈ (s.assignments c t.phase).1 ↔ c.wanted? values t = some v := by
  have hfor : t ∈ s.targetsFor t.phase := List.mem_filter.mpr ⟨ht, beq_self_eq_true _⟩
  rw [assignments_of_values hid hvalues, List.mem_filterMap]
  constructor
  · rintro ⟨t', -, hwanted⟩
    obtain ⟨v', hv', heq⟩ := Option.map_eq_some_iff.mp hwanted
    obtain ⟨rfl, rfl⟩ := Assignment.mk.inj heq
    exact hv'
  · intro hwanted
    exact ⟨t, hfor, by rw [hwanted, Option.map_some]⟩

/-- **A target gets the value of its entry exactly if the key is a text**, or the other entries give
it the same value. -/
theorem resolved_iff_isText (hnull : key.isNull = false) (htext : key.text ≠ "")
    (hs : Setting.ofValue settingDoc place = .ok s) (hc : Choice.ofValue choiceDoc place' = .ok c)
    (h : SharesName settingDoc choiceDoc key c targetDoc values v) :
    ∃ t ∈ s.targets, (∃ p, Target.ofValue targetDoc p = .ok t) ∧
      ((∃ as, (s.resolved c t.phase).outcome = .ok as ∧ ⟨t, v⟩ ∈ as) ↔
        s.id ≠ powerPlanSetting ∧ s.UnmatchedFit c values t.phase ∧
          (key.isText = true ∨ c.wanted? (values.without key) t = some v)) := by
  obtain ⟨items, hitems, hmem⟩ := h.listed
  obtain ⟨t, ht, p, hread⟩ := exists_target_of_ofValue hs hitems hmem
  refine ⟨t, ht, ⟨p, hread⟩, ?_⟩
  have hvalues := values?_of_sharesName hs hc h
  have hlookup : t.lookupKey = key.text := Target.lookupKey_of_ofValue hread h.named hnull htext
  have hwanted : c.wanted? values t = some v ↔
      key.isText = true ∨ c.wanted? (values.without key) t = some v := by
    cases hkey : key.isText with
    | true =>
      have hfound : values.getText? t.lookupKey = some v := by
        rw [Entries.getText?, hlookup, ← Value.eq_str_of_isText hkey]
        exact h.entry
      simp [wanted?_of_getText? hfound]
    | false => simp [Choice.wanted?, Entries.getText?_without hkey]
  by_cases hid : s.id = powerPlanSetting
  · have hnone : (s.assignments c t.phase).1 = [] := by simp [assignments, hid]
    constructor
    · rintro ⟨as, hok, has⟩
      rw [resolved, Draft.outcome_reported_iff] at hok
      rw [hok.1, hnone] at has
      exact absurd has List.not_mem_nil
    · intro hall
      exact absurd hid hall.1
  · rw [← hwanted, ← mem_assignments_iff hid hvalues ht]
    constructor
    · rintro ⟨as, hok, has⟩
      obtain ⟨rfl, hfit⟩ := (outcome_resolved_of_values hid fun _ => hvalues).mp hok
      exact ⟨hid, hfit, has⟩
    · rintro ⟨-, hfit, has⟩
      exact ⟨_, (outcome_resolved_of_values hid fun _ => hvalues).mpr ⟨rfl, hfit⟩, has⟩

end Setting

/-- **Keys link documents exactly if they are texts.** A feature that a catalogue and a
configuration list under one key is found for its section, and a target that is named by a key gets
the value that a row or a choice has under it, exactly if the key is a text; an entry under another
key counts for nothing. -/
theorem Value.links_iff_isText (key : Value) :
    (∀ catalogDoc configDoc catalog config group feature choices,
      Catalog.ofValue catalogDoc = .ok catalog → Configuration.ofValue configDoc = .ok config →
      SharesFeature catalogDoc configDoc key group feature choices →
      ∃ g ∈ config.groups, ∃ sec ∈ g.sections,
        ChoiceSection.ofEntry group (key, choices) = .ok sec ∧
        ((∃ f, Feature.ofEntry (key, feature) = .ok f ∧ catalog.feature? sec.feature = some f) ↔
          key.isText = true)) ∧
    (key.isNull = false → key.text ≠ "" →
      ∀ settingDoc choiceDoc place place' s c targetDoc values v,
      Setting.ofValue settingDoc place = .ok s → Choice.ofValue choiceDoc place' = .ok c →
      SharesName settingDoc choiceDoc key c targetDoc values v →
      ∃ t ∈ s.targets, (∃ p, Target.ofValue targetDoc p = .ok t) ∧
        ((∃ as, (s.resolved c t.phase).outcome = .ok as ∧ ⟨t, v⟩ ∈ as) ↔
          s.id ≠ powerPlanSetting ∧ s.UnmatchedFit c values t.phase ∧
            (key.isText = true ∨ c.wanted? (values.without key) t = some v))) := by
  constructor
  · intro catalogDoc configDoc catalog config group feature choices hcatalog hconfig h
    exact Catalog.feature?_iff_isText hcatalog hconfig h
  · intro hnull htext settingDoc choiceDoc place place' s c targetDoc values v hs hc h
    exact Setting.resolved_iff_isText hnull htext hs hc h

/-! ## A key that is a text, and a number -/

/-- A document of a setting whose target and whose only row have one name. -/
def keyedSetting (key : Value) : Value :=
  .map [(.str "id", .str "theme"), (.str "input_type", .str "selection"),
    (.str "registry",
      .list [.map [(.str "key_path", .str "HKCU\\Zone"), (.str "value_name", key)]]),
    (.str "value_mappings", .map [(.str "0", .map [(key, .int 3)])])]

/-- The document of its target. -/
def keyedTarget (key : Value) : Value :=
  .map [(.str "key_path", .str "HKCU\\Zone"), (.str "value_name", key)]

/-- The feature of the setting. -/
def keyedFeature (key : Value) : Value := .map [(.str "settings", .list [keyedSetting key])]

/-- A document of a catalogue with the feature under the same key. -/
def keyedCatalog (key : Value) : Value := .map [(.str "features", .map [(key, keyedFeature key)])]

/-- What is chosen for the feature: the only row. -/
def keyedChoices : Value := .map [(.str "items", .list [indexDocument 0])]

/-- A document of a configuration with the feature under the same key. -/
def keyedConfiguration (key : Value) : Value :=
  .map [(.str "optimize", .map [(.str "features", .map [(key, keyedChoices)])])]

theorem sharesFeature_keyed {key : Value} (hkey : key.sameKey key = true) :
    SharesFeature (keyedCatalog key) (keyedConfiguration key) key "optimize" (keyedFeature key)
      keyedChoices where
  listed := by
    have hpart : (keyedCatalog key).part? "features" = some [(key, keyedFeature key)] := rfl
    simp [hpart, Entries.get?, Table.get?, hkey]
  isGroup := List.mem_cons_self
  chosen := ⟨_, rfl, List.mem_singleton_self _⟩

theorem sharesName_keyed {key : Value} (hkey : key.sameKey key = true) :
    SharesName (keyedSetting key) (indexDocument 0) key (indexChoice 0) (keyedTarget key)
      [(key, .int 3)] (.int 3) where
  listed := ⟨_, rfl, List.mem_singleton_self _⟩
  named := rfl
  brought := .inr ⟨rfl, rfl, rfl⟩
  entry := by simp [Entries.get?, Table.get?, hkey]

/-- The setting of the document, for a text. -/
def namedSetting (name : String) : Setting :=
  ⟨"theme", "theme", .selection, [⟨"HKCU\\Zone", some name, .dword, .null, .null, .plain⟩], [], [],
    [], [(0, [(.str name, .int 3)])], false, false⟩

/-- A text links all documents. -/
theorem links_iff_isText_name :
    (∃ catalog config, Catalog.ofValue (keyedCatalog (.str "1806")) = .ok catalog ∧
      Configuration.ofValue (keyedConfiguration (.str "1806")) = .ok config ∧
      ∃ g ∈ config.groups, ∃ sec ∈ g.sections, ∃ f,
        Feature.ofEntry (.str "1806", keyedFeature (.str "1806")) = .ok f ∧
          catalog.feature? sec.feature = some f) ∧
    Setting.ofValue (keyedSetting (.str "1806")) "setting" = .ok (namedSetting "1806") ∧
    Choice.ofValue (indexDocument 0) "item" = .ok (indexChoice 0) ∧
    ∃ t ∈ (namedSetting "1806").targets, ∃ as,
      ((namedSetting "1806").resolved (indexChoice 0) t.phase).outcome = .ok as ∧
        ⟨t, .int 3⟩ ∈ as := by
  obtain ⟨hfeature, hvalue⟩ := Value.links_iff_isText (.str "1806")
  constructor
  · obtain ⟨catalog, hcatalog⟩ : ∃ c, Catalog.ofValue (keyedCatalog (.str "1806")) = .ok c :=
      isOk_iff_exists.mp (by decide +kernel)
    obtain ⟨config, hconfig⟩ :
        ∃ c, Configuration.ofValue (keyedConfiguration (.str "1806")) = .ok c :=
      isOk_iff_exists.mp (by decide +kernel)
    obtain ⟨g, hg, sec, hsec, -, hfound⟩ := hfeature _ _ catalog config "optimize" _ _ hcatalog
      hconfig (sharesFeature_keyed rfl)
    exact ⟨catalog, config, hcatalog, hconfig, g, hg, sec, hsec, hfound.mpr rfl⟩
  · have hid : (namedSetting "1806").id ≠ powerPlanSetting := by decide
    obtain ⟨t, ht, -, hyields⟩ := hvalue rfl (by decide) _ _ "setting" "item" (namedSetting "1806")
      (indexChoice 0) _ _ _ rfl rfl (sharesName_keyed rfl)
    refine ⟨rfl, rfl, t, ht, hyields.mpr ⟨hid, fun _ _ => ?_, .inl rfl⟩⟩
    exact List.forall_mem_singleton.mpr fun _ => rfl

/-- **A number links nothing**, though all documents write the same one. -/
theorem not_links_number :
    (∃ catalog config, Catalog.ofValue (keyedCatalog (.int 1806)) = .ok catalog ∧
      Configuration.ofValue (keyedConfiguration (.int 1806)) = .ok config ∧
      SharesFeature (keyedCatalog (.int 1806)) (keyedConfiguration (.int 1806)) (.int 1806)
        "optimize" (keyedFeature (.int 1806)) keyedChoices ∧
      ∃ g ∈ config.groups, ∃ sec ∈ g.sections,
        ChoiceSection.ofEntry "optimize" (.int 1806, keyedChoices) = .ok sec ∧
        ¬∃ f, Feature.ofEntry (.int 1806, keyedFeature (.int 1806)) = .ok f ∧
          catalog.feature? sec.feature = some f) ∧
    ∃ s, Setting.ofValue (keyedSetting (.int 1806)) "setting" = .ok s ∧
      Choice.ofValue (indexDocument 0) "item" = .ok (indexChoice 0) ∧
      SharesName (keyedSetting (.int 1806)) (indexDocument 0) (.int 1806) (indexChoice 0)
        (keyedTarget (.int 1806)) [(.int 1806, .int 3)] (.int 3) ∧
      ∃ t ∈ s.targets, (∃ p, Target.ofValue (keyedTarget (.int 1806)) p = .ok t) ∧
        ¬∃ as, (s.resolved (indexChoice 0) t.phase).outcome = .ok as ∧ ⟨t, .int 3⟩ ∈ as := by
  constructor
  · obtain ⟨catalog, hcatalog⟩ : ∃ c, Catalog.ofValue (keyedCatalog (.int 1806)) = .ok c :=
      isOk_iff_exists.mp (by decide +kernel)
    obtain ⟨config, hconfig⟩ :
        ∃ c, Configuration.ofValue (keyedConfiguration (.int 1806)) = .ok c :=
      isOk_iff_exists.mp (by decide +kernel)
    have hshares : SharesFeature (keyedCatalog (.int 1806)) (keyedConfiguration (.int 1806))
        (.int 1806) "optimize" (keyedFeature (.int 1806)) keyedChoices := sharesFeature_keyed rfl
    obtain ⟨g, hg, sec, hsec, hread, hfound⟩ :=
      Catalog.feature?_iff_isText hcatalog hconfig hshares
    refine ⟨catalog, config, hcatalog, hconfig, hshares, g, hg, sec, hsec, hread, fun hf => ?_⟩
    exact Bool.false_ne_true (hfound.mp hf)
  · obtain ⟨s, hs⟩ : ∃ s, Setting.ofValue (keyedSetting (.int 1806)) "setting" = .ok s :=
      isOk_iff_exists.mp (by decide +kernel)
    have hc : Choice.ofValue (indexDocument 0) "item" = .ok (indexChoice 0) := rfl
    have hshares : SharesName (keyedSetting (.int 1806)) (indexDocument 0) (.int 1806)
        (indexChoice 0) (keyedTarget (.int 1806)) [(.int 1806, .int 3)] (.int 3) :=
      sharesName_keyed rfl
    obtain ⟨t, ht, hread, hyields⟩ := Setting.resolved_iff_isText rfl (by decide) hs hc hshares
    refine ⟨s, hs, hc, hshares, t, ht, hread, fun has => ?_⟩
    obtain ⟨-, -, htext | hother⟩ := hyields.mp has
    · cases htext
    · cases hother

end Provision
