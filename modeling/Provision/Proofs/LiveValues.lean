import Mathlib
import Provision.Proofs.Compilable

/-!
# Live power values

The power settings of a catalogue meet the values that a machine has for them, by GUIDs in any
letter case.

* `Text.lower_eq_of_toLower`: the lower case of a text does not see the case of ASCII letters.
* `Readings.get?_ofList`: of several readings at one GUID the last is found.
* `LiveValues.pair?`: the values of a power setting, and `LiveValues.paired`: the rows of settings.
* **`LiveValues.collectReadings_paired`**: these are collected, whatever is live.
-/

namespace Provision

/-! ## The case of ASCII letters -/

namespace Text

theorem toLower_of_le {c : Char} (h : 128 ≤ c.toNat) : c.toLower = c := by
  rw [Char.toLower, dif_neg]
  rintro ⟨-, hle⟩
  have hle : c.toNat ≤ 90 := hle
  omega

/-- What holds of ASCII characters and of those that have no other case in ASCII. -/
theorem forall_toLower {p : Char → Char → Prop}
    (hascii : ∀ n < 128, p (Char.ofNat n) (Char.ofNat n).toLower) (hrefl : ∀ c, p c c) (c : Char) :
    p c c.toLower := by
  by_cases h : c.toNat < 128
  · have hc := hascii c.toNat h
    rwa [Char.ofNat_toNat] at hc
  · rw [toLower_of_le (not_lt.mp h)]
    exact hrefl c

theorem holds_ignorable_toLower (c : Char) :
    ignorableTurns.holds c.toLower = ignorableTurns.holds c :=
  forall_toLower (p := fun c d => ignorableTurns.holds d = ignorableTurns.holds c)
    (by decide +kernel) (fun _ => rfl) c

theorem holds_cased_toLower (c : Char) : casedTurns.holds c.toLower = casedTurns.holds c :=
  forall_toLower (p := fun c d => casedTurns.holds d = casedTurns.holds c)
    (by decide +kernel) (fun _ => rfl) c

theorem toLower_eq_sigma_iff (c : Char) : c.toLower = 'Σ' ↔ c = 'Σ' :=
  forall_toLower (p := fun c d => d = 'Σ' ↔ c = 'Σ') (by decide +kernel) (fun _ => Iff.rfl) c

theorem lowerChar_toLower (c : Char) : lowerChar c.toLower = lowerChar c :=
  forall_toLower (p := fun c d => lowerChar d = lowerChar c) (by decide +kernel) (fun _ => rfl) c

theorem meetsCased_map_toLower (cs : List Char) :
    meetsCased (cs.map Char.toLower) = meetsCased cs := by
  have hskip : ignorableTurns.holds ∘ Char.toLower = ignorableTurns.holds :=
    funext holds_ignorable_toLower
  rw [meetsCased, meetsCased, List.dropWhile_map, hskip]
  cases cs.dropWhile ignorableTurns.holds with
  | nil => rfl
  | cons c cs => exact holds_cased_toLower c

theorem lowerFrom_map_toLower (before cs : List Char) :
    lowerFrom (before.map Char.toLower) (cs.map Char.toLower) = lowerFrom before cs := by
  induction cs generalizing before with
  | nil => rfl
  | cons c cs ih =>
    have hrest := ih (c :: before)
    rw [List.map_cons] at hrest
    rw [List.map_cons, lowerFrom, lowerFrom, hrest, lowerChar_toLower, meetsCased_map_toLower,
      meetsCased_map_toLower]
    simp only [toLower_eq_sigma_iff]

theorem lowerFrom_of_ascii {before cs : List Char} (h : ∀ c ∈ cs, c.toNat < 128) :
    lowerFrom before cs = cs.map Char.toLower := by
  induction cs generalizing before with
  | nil => rfl
  | cons c cs ih =>
    obtain ⟨hc, hcs⟩ := List.forall_mem_cons.mp h
    have hsigma : c ≠ 'Σ' := by
      rintro rfl
      exact absurd hc (by decide)
    rw [lowerFrom, if_neg hsigma, lowerChar, if_pos hc, ih hcs]
    rfl

/-- **The lower case of a text does not see the case of its ASCII letters.** -/
theorem lower_eq_of_toLower {s t : String}
    (h : s.toList.map Char.toLower = t.toList.map Char.toLower) : lower s = lower t := by
  rw [lower, lower, ← lowerFrom_map_toLower [] s.toList, h, lowerFrom_map_toLower]

end Text

/-! ## The last reading at a GUID -/

/-- **Of several readings at one GUID the last is found.** -/
theorem Readings.get?_ofList (rs : List (String × Reading)) (guid : String) :
    (ofList rs).get? guid = ((rs.filter fun e => e.1 == guid).getLast?).map Prod.snd := by
  induction rs using List.reverseRecOn with
  | nil => rfl
  | append_singleton rs e ih =>
    have hinsert : ofList (rs ++ [e]) = (ofList rs).insert e.1 e.2 := by
      rw [ofList, List.foldl_append]
      rfl
    rw [hinsert, List.filter_append]
    by_cases he : guid = e.1
    · rw [he, get?_insert_self]
      simp
    · rw [get?_insert_of_ne _ he, ih]
      simp [Ne.symm he]

/-! ## Live values -/

/-- What a machine has for power settings: by GUID the index on mains and that on battery, each
unless it is unknown. -/
abbrev LiveValues := List (String × Option Int × Option Int)

namespace LiveValues

/-- One side of a reading. -/
def side : Option Int → Value
  | none => .null
  | some n => .int n

/-- The readings that a machine gives. -/
def readings (live : LiveValues) : Readings :=
  live.map fun e => (e.1, ⟨side e.2.1, side e.2.2⟩)

/-- The values of a power setting, if both are known: those at the last GUID that is the same in
lower case. -/
def pair? (live : LiveValues) (guid : String) : Option (Int × Int) :=
  match (live.filter fun e => Text.lower e.1 == Text.lower guid).getLast? with
  | some (_, some ac, some dc) => some (ac, dc)
  | _ => none

example : pair? [("AB", some 1, some 2), ("ab", some 3, none)] "Ab" = none := by decide +kernel

/-- The row of a power setting of a setting. -/
def row? (live : LiveValues) (s : Setting) (t : PowerTarget) : Option PowerValue :=
  (live.pair? t.setting).map fun p => ⟨t.subgroup, t.setting, p.1, p.2, s.description⟩

/-- The rows of settings with the settings that they come from, in the order of the catalogue: none
for the setting of the power plan and for what depends on brightness. -/
def paired (live : LiveValues) (settings : List Setting) : List (Setting × PowerValue) :=
  (settings.filter fun s => s.id != powerPlanSetting && !s.needsBrightness).flatMap fun s =>
    (s.power.filterMap (live.row? s)).map (s, ·)

theorem areNumeric_readings (live : LiveValues) : live.readings.AreNumeric := by
  have hside : ∀ n? : Option Int, (side n?).IsIndex := by
    intro n?
    cases n? with
    | none => exact .inl rfl
    | some n => exact .inr ⟨n, rfl⟩
  exact List.forall_mem_map.mpr fun e _ => ⟨hside e.2.1, hside e.2.2⟩

theorem get?_folded_readings (live : LiveValues) (guid : String) :
    live.readings.folded.get? guid =
      ((live.filter fun e => Text.lower e.1 == guid).getLast?).map fun e =>
        ⟨side e.2.1, side e.2.2⟩ := by
  rw [Readings.folded, Readings.get?_ofList, readings, List.map_map, List.filter_map,
    List.getLast?_map, Option.map_map]
  rfl

theorem powerRow?_folded_readings (live : LiveValues) (s : Setting) (t : PowerTarget) :
    s.powerRow? live.readings.folded t = live.row? s t := by
  unfold Setting.powerRow? row? pair?
  rw [get?_folded_readings]
  cases (live.filter fun e => Text.lower e.1 == Text.lower t.setting).getLast? with
  | none => rfl
  | some e =>
    obtain ⟨guid, ac?, dc?⟩ := e
    cases ac? with
    | none => rfl
    | some ac => cases dc? <;> rfl

theorem map_snd_filter_paired (live : LiveValues) (settings : List Setting) (hasBattery : Bool) :
    ((live.paired settings).filter fun e => hasBattery || !e.1.needsBattery).map Prod.snd =
      (settings.filter fun s => s.id != powerPlanSetting && !s.isGated hasBattery).flatMap
        (·.powerRows live.readings.folded) := by
  rw [paired, List.filter_flatMap, List.map_flatMap, flatMap_filter_eq, flatMap_filter_eq]
  refine List.flatMap_congr fun s _ => ?_
  have hrows : s.powerRows live.readings.folded = s.power.filterMap (live.row? s) :=
    List.filterMap_congr fun t _ => powerRow?_folded_readings live s t
  have hkept : (((s.power.filterMap (live.row? s)).map (s, ·)).filter
      fun e => hasBattery || !e.1.needsBattery).map Prod.snd =
        if hasBattery || !s.needsBattery then s.power.filterMap (live.row? s) else [] := by
    cases hopen : hasBattery || !s.needsBattery <;>
      simp [List.filter_map, Function.comp_def, hopen]
  rw [hrows, hkept, Setting.isGated]
  cases s.id != powerPlanSetting <;> cases s.needsBrightness <;> cases s.needsBattery <;>
    cases hasBattery <;> rfl

/-- GUIDs that differ in the case of ASCII letters only, with the same values. -/
structure SameCase (e e' : String × Option Int × Option Int) : Prop where
  guid : e.1.toList.map Char.toLower = e'.1.toList.map Char.toLower
  values : e.2 = e'.2

theorem folded_readings_congr {live live' : LiveValues} (h : List.Forall₂ SameCase live live') :
    live.readings.folded = live'.readings.folded := by
  have hfold : live.readings.map (fun e => (Text.lower e.1, e.2)) =
      live'.readings.map fun e => (Text.lower e.1, e.2) := by
    induction h with
    | nil => rfl
    | cons he _ ih =>
      simp only [readings, List.map_cons] at ih ⊢
      rw [ih, Text.lower_eq_of_toLower he.guid, he.values]
  rw [Readings.folded, Readings.folded, hfold]

/-- **Live values are paired exactly.** For any settings and any live values, the power values of
the settings are collected: with a battery the rows of all settings, and without one those of the
settings that do not need it, in the same order. The case of ASCII letters in the GUIDs of the live
values changes nothing, not even a notice. -/
theorem collectReadings_paired (settings : List Setting) (live : LiveValues) :
    (∀ hasBattery, (collectReadings settings live.readings hasBattery).outcome = .ok ()) ∧
      (collectReadings settings live.readings true).items =
        (live.paired settings).map Prod.snd ∧
      (collectReadings settings live.readings false).items =
        ((live.paired settings).filter fun e => !e.1.needsBattery).map Prod.snd ∧
      ∀ live' : LiveValues, List.Forall₂ SameCase live live' → ∀ hasBattery,
        collectReadings settings live'.readings hasBattery =
          collectReadings settings live.readings hasBattery := by
  have hok : ∀ hasBattery,
      (collectReadings settings live.readings hasBattery).outcome = .ok () := by
    intro hasBattery
    obtain ⟨u, hu⟩ := endsWell_collectReadings live.areNumeric_readings
    exact hu
  have hitems : ∀ hasBattery, (collectReadings settings live.readings hasBattery).items =
      ((live.paired settings).filter fun e => hasBattery || !e.1.needsBattery).map Prod.snd := by
    intro hasBattery
    rw [items_collectReadings (hok hasBattery), map_snd_filter_paired]
  refine ⟨hok, ?_, hitems false, fun live' hsame hasBattery => ?_⟩
  · rw [hitems true]
    simp
  · rw [collectReadings, collectReadings, folded_readings_congr hsame]

end LiveValues

end Provision
