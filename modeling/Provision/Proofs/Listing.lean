import Mathlib
import Provision.Power.Listing
import Provision.Proofs.LiveValues

/-!
# Listings of power settings read back

The lines of a listing announce settings and give their indexes; other lines say nothing.

* `Readings.Holds`: readings by the rows that they come from; `Readings.Holds.unique`: only one has
  the same rows.
* `Listing.Names`: what stands behind a label in a line; `Listing.Announces`, `Listing.IsNoise`.
* `Listing.ShowsSetting`, `Listing.ShowsIndex`: lines as they are written, and what they say.
* `Listing.rows`: the settings in lines; `Listing.rows_append`, `Listing.rows_filter`.
* `Listing.Lists`: an output that lists entries, with noise between its lines.
* **`Listing.readings_read_back`**: its readings are those of the entries, and of two listings the
  second is written over the first.
-/

namespace Provision

/-! ## Readings by their rows -/

theorem Table.eraseDups_append_eraseDups {κ : Type} [BEq κ] [LawfulBEq κ] (ks ls : List κ) :
    (ks ++ ls.eraseDups).eraseDups = (ks ++ ls).eraseDups := by
  induction ls using List.reverseRecOn with
  | nil => rfl
  | append_singleton ls k ih =>
    rw [← List.append_assoc ks ls, Table.eraseDups_concat, Table.eraseDups_concat, ← ih]
    cases hk : ls.contains k with
    | true =>
      have hmem : (ks ++ ls).contains k = true := by simp_all
      rw [hmem, if_pos rfl, List.append_nil, List.append_nil]
    | false =>
      have hmem : (ks ++ ls).contains k = (ks ++ ls.eraseDups).contains k := by
        simp [List.mem_eraseDups]
      rw [hmem, if_neg Bool.false_ne_true, ← List.append_assoc, Table.eraseDups_concat]

namespace Readings

/-- Readings hold rows: every GUID once, where its first row stands, with what its last row says. -/
structure Holds (rs : Readings) (rows : List (String × Reading)) : Prop where
  keys : rs.map Prod.fst = (rows.map Prod.fst).eraseDups
  last : ∀ guid, rs.get? guid = ((rows.filter fun e => e.1 == guid).getLast?).map Prod.snd

/-- Readings with others written over them. -/
def update (rs more : Readings) : Readings := more.foldl (fun acc e => acc.insert e.1 e.2) rs

theorem ofList_concat (rows : List (String × Reading)) (row : String × Reading) :
    ofList (rows ++ [row]) = (ofList rows).insert row.1 row.2 := by
  rw [ofList, ofList, List.foldl_append]
  rfl

theorem holds_ofList (rows : List (String × Reading)) : (ofList rows).Holds rows := by
  refine ⟨?_, get?_ofList rows⟩
  induction rows using List.reverseRecOn with
  | nil => rfl
  | append_singleton rows row ih =>
    have hany : ((ofList rows).any fun e => e.1 == row.1) =
        (rows.map Prod.fst).contains row.1 := by
      have hmap : ((ofList rows).any fun e => e.1 == row.1) =
          ((ofList rows).map Prod.fst).any (· == row.1) := by rw [List.any_map]; rfl
      rw [hmap, ih, List.any_beq', Bool.eq_iff_iff, List.contains_iff_mem, List.contains_iff_mem,
        List.mem_eraseDups]
    rw [ofList_concat, insert, Table.keys_put, hany, ih, List.map_append, List.map_singleton,
      Table.eraseDups_concat]
    split <;> simp

theorem Holds.nodup {rs : Readings} {rows : List (String × Reading)} (h : rs.Holds rows) :
    (rs.map Prod.fst).Nodup := h.keys ▸ Table.nodup_eraseDups _

/-- Readings are determined by their GUIDs and what is found at them. -/
theorem eq_filterMap_get? {rs : Readings} (h : (rs.map Prod.fst).Nodup) :
    rs = (rs.map Prod.fst).filterMap fun guid => (rs.get? guid).map (guid, ·) := by
  induction rs with
  | nil => rfl
  | cons e rs ih =>
    obtain ⟨hnew, hnodup⟩ := List.nodup_cons.mp h
    have hself : get? (e :: rs) e.1 = some e.2 := by simp [get?, Table.get?]
    have hrest : ∀ guid ∈ rs.map Prod.fst, get? (e :: rs) guid = get? rs guid := by
      intro guid hguid
      have hne : (e.1 == guid) = false := by
        rw [beq_eq_false_iff_ne]
        rintro rfl
        exact hnew hguid
      simp [get?, Table.get?, hne]
    rw [List.map_cons, List.filterMap_cons, hself]
    simp only [Option.map_some]
    congr 1
    exact (ih hnodup).trans (List.filterMap_congr fun guid hguid => by rw [hrest guid hguid])

theorem Holds.unique {rs rs' : Readings} {rows : List (String × Reading)} (h : rs.Holds rows)
    (h' : rs'.Holds rows) : rs = rs' := by
  rw [eq_filterMap_get? h.nodup, eq_filterMap_get? h'.nodup, h.keys, h'.keys]
  exact List.filterMap_congr fun guid _ => by rw [h.last, h'.last]

theorem get?_of_nodup {rs : Readings} (h : (rs.map Prod.fst).Nodup) (guid : String) :
    rs.get? guid = ((rs.filter fun e => e.1 == guid).getLast?).map Prod.snd := by
  induction rs with
  | nil => rfl
  | cons e rs ih =>
    obtain ⟨hnew, hnodup⟩ := List.nodup_cons.mp h
    cases he : e.1 == guid with
    | true =>
      have hnone : rs.filter (fun e => e.1 == guid) = [] := by
        rw [List.filter_eq_nil_iff]
        intro e' he' hguid
        rw [beq_iff_eq] at he hguid
        exact hnew (he ▸ hguid ▸ List.mem_map_of_mem he')
      simp [get?, Table.get?, he, hnone]
    | false => simpa [get?, Table.get?, he] using ih hnodup

/-- Instead of readings, the rows that they hold can stand behind other rows. -/
theorem Holds.append {rs more : Readings} {rows moreRows : List (String × Reading)}
    (h : rs.Holds (rows ++ more)) (hmore : more.Holds moreRows) : rs.Holds (rows ++ moreRows) := by
  refine ⟨?_, fun guid => ?_⟩
  · rw [h.keys, List.map_append, List.map_append, hmore.keys, Table.eraseDups_append_eraseDups]
  · have hlast := (get?_of_nodup hmore.nodup guid).symm.trans (hmore.last guid)
    rw [h.last, List.filter_append, List.filter_append, List.getLast?_append, List.getLast?_append,
      Option.map_or, Option.map_or, hlast]

theorem ofList_append (rows more : List (String × Reading)) :
    ofList (rows ++ more) = (ofList rows).update (ofList more) := by
  have hupdate : (ofList rows).update (ofList more) = ofList (rows ++ ofList more) := by
    rw [ofList.eq_def (rows ++ ofList more), List.foldl_append]
    rfl
  rw [hupdate]
  exact (holds_ofList _).unique ((holds_ofList _).append (holds_ofList more))

end Readings

namespace Listing

/-! ## Patterns -/

/-- Nothing but blanks. -/
def AreBlank (cs : List Char) : Prop := ∀ c ∈ cs, Text.isBlank c = true

instance (cs : List Char) : Decidable (AreBlank cs) :=
  decidable_of_iff (cs.all Text.isBlank = true) List.all_eq_true

/-- Something that begins with a character that is no blank. -/
def BeginsInk (cs : List Char) : Prop := ∃ c rest, cs = c :: rest ∧ Text.isBlank c = false

theorem BeginsInk.append {cs : List Char} (h : BeginsInk cs) (more : List Char) :
    BeginsInk (cs ++ more) := by
  obtain ⟨c, rest, rfl, hc⟩ := h
  exact ⟨c, rest ++ more, rfl, hc⟩

/-- Runs of hexadecimal digits of the given lengths with single hyphens between them. -/
def AreRuns (lengths : List Nat) (cs : List Char) : Prop :=
  ∃ runs : List (List Char), cs = ['-'].intercalate runs ∧ runs.map List.length = lengths ∧
    ∀ run ∈ runs, ∀ c ∈ run, isHex c = true

/-- A GUID: 32 hexadecimal digits in five runs. -/
def IsGuid (cs : List Char) : Prop := AreRuns [8, 4, 4, 4, 12] cs

/-- A hexadecimal number with its mark. -/
def IsIndex (cs : List Char) : Prop :=
  ∃ digits, cs = '0' :: 'x' :: digits ∧ digits ≠ [] ∧ ∀ c ∈ digits, isHex c = true

theorem toNat_of_isHex {c : Char} (h : isHex c = true) :
    48 ≤ c.toNat ∧ c.toNat ≤ 57 ∨ 97 ≤ c.toNat ∧ c.toNat ≤ 102 ∨ 65 ≤ c.toNat ∧ c.toNat ≤ 70 := by
  rw [isHex, Text.hexValue?] at h
  split_ifs at h with h1 h2 h3
  · exact .inl h1
  · exact .inr (.inl h2)
  · exact .inr (.inr h3)
  · cases h

theorem isBlank_of_isHex {c : Char} (h : isHex c = true) : Text.isBlank c = false := by
  have hc := toNat_of_isHex h
  simp only [Text.isBlank, Bool.or_eq_false_iff, Bool.and_eq_false_iff, decide_eq_false_iff_not,
    beq_eq_false_iff_ne]
  omega

theorem hexRun?_eq_some_iff {n : Nat} {cs run rest : List Char} :
    hexRun? n cs = some (run, rest) ↔
      cs = run ++ rest ∧ run.length = n ∧ ∀ c ∈ run, isHex c = true := by
  rw [hexRun?]
  constructor
  · intro h
    split_ifs at h with hrun
    cases h
    exact ⟨(List.take_append_drop n cs).symm, hrun.1, List.all_eq_true.mp hrun.2⟩
  · rintro ⟨rfl, rfl, hhex⟩
    rw [List.take_left, List.drop_left, if_pos ⟨rfl, List.all_eq_true.mpr hhex⟩]

theorem areRuns_nil_iff {cs : List Char} : AreRuns [] cs ↔ cs = [] := by
  simp [AreRuns]

theorem areRuns_singleton_iff {n : Nat} {cs : List Char} :
    AreRuns [n] cs ↔ cs.length = n ∧ ∀ c ∈ cs, isHex c = true := by
  simp [AreRuns, List.map_eq_cons_iff]

theorem areRuns_cons_cons_iff {n m : Nat} {ns : List Nat} {cs : List Char} :
    AreRuns (n :: m :: ns) cs ↔ ∃ run more, cs = run ++ '-' :: more ∧ run.length = n ∧
      (∀ c ∈ run, isHex c = true) ∧ AreRuns (m :: ns) more := by
  constructor
  · rintro ⟨runs, rfl, hlengths, hhex⟩
    obtain ⟨run, runs, rfl, hrun, hruns⟩ := List.map_eq_cons_iff.mp hlengths
    obtain ⟨run', runs, rfl, hrun', hruns⟩ := List.map_eq_cons_iff.mp hruns
    obtain ⟨hhex, hmore⟩ := List.forall_mem_cons.mp hhex
    exact ⟨run, _, by simp, hrun, hhex, run' :: runs, rfl, by simp [*], hmore⟩
  · rintro ⟨run, more, rfl, hrun, hhex, runs, rfl, hlengths, hmore⟩
    obtain ⟨run', runs, rfl, -, -⟩ := List.map_eq_cons_iff.mp hlengths
    exact ⟨run :: run' :: runs, by simp, by simp [← hlengths, hrun],
      List.forall_mem_cons.mpr ⟨hhex, hmore⟩⟩

theorem hexRuns?_cons_cons_eq_some_iff {n m : Nat} {ns : List Nat} {cs runs rest : List Char} :
    hexRuns? (n :: m :: ns) cs = some (runs, rest) ↔
      ∃ run more, hexRun? n cs = some (run, '-' :: more) ∧ ∃ runs', runs = run ++ '-' :: runs' ∧
        hexRuns? (m :: ns) more = some (runs', rest) := by
  rw [hexRuns?.eq_3 _ _ _ (List.cons_ne_nil m ns)]
  cases hrun : hexRun? n cs with
  | none => simp
  | some r =>
    obtain ⟨run, after⟩ := r
    simp only [Option.bind_eq_bind, Option.bind_some]
    split
    · rename_i more
      simp only [Option.bind_eq_some_iff, Prod.exists, Option.some.injEq, Prod.mk.injEq,
        List.cons.injEq, true_and, Option.pure_def]
      constructor
      · rintro ⟨runs', rest, hruns, rfl, rfl⟩
        exact ⟨run, more, ⟨rfl, rfl⟩, runs', rfl, hruns⟩
      · rintro ⟨_, _, ⟨rfl, rfl⟩, runs', rfl, hruns⟩
        exact ⟨runs', rest, hruns, rfl, rfl⟩
    · rename_i hno
      refine iff_of_false (by simp) ?_
      rintro ⟨run', more, h, -⟩
      exact hno more (Prod.mk.inj (Option.some.inj h)).2

theorem hexRuns?_eq_some_iff {lengths : List Nat} {cs runs rest : List Char} :
    hexRuns? lengths cs = some (runs, rest) ↔ cs = runs ++ rest ∧ AreRuns lengths runs := by
  induction lengths generalizing cs runs rest with
  | nil =>
    rw [hexRuns?, areRuns_nil_iff]
    constructor
    · rintro ⟨⟩
      exact ⟨rfl, rfl⟩
    · rintro ⟨rfl, rfl⟩
      rfl
  | cons n ns ih =>
    cases ns with
    | nil => rw [hexRuns?, hexRun?_eq_some_iff, areRuns_singleton_iff]
    | cons m ns =>
      simp only [hexRuns?_cons_cons_eq_some_iff, areRuns_cons_cons_iff, hexRun?_eq_some_iff, ih]
      constructor
      · rintro ⟨run, more, ⟨rfl, hlength, hhex⟩, runs', rfl, rfl, hruns⟩
        exact ⟨by simp, run, runs', rfl, hlength, hhex, hruns⟩
      · rintro ⟨rfl, run, runs', rfl, hlength, hhex, hruns⟩
        exact ⟨run, runs' ++ rest, ⟨by simp, hlength, hhex⟩, runs', rfl, rfl, hruns⟩

/-! ## Labels -/

/-- In a line stands a label, and after blanks something of the given kind. -/
def Names (label : String) (kind : List Char → Prop) (line : List Char) : Prop :=
  ∃ before gap found after, line = before ++ (label.toList ++ (gap ++ (found ++ after))) ∧
    AreBlank gap ∧ kind found

theorem dropWhile_isBlank_append {gap rest : List Char} (hgap : AreBlank gap)
    (hrest : BeginsInk rest) : (gap ++ rest).dropWhile Text.isBlank = rest := by
  obtain ⟨c, rest, rfl, hc⟩ := hrest
  rw [List.dropWhile_append_of_pos hgap, List.dropWhile_cons_of_neg (by simp [hc])]

theorem afterLabel?_append {label : String} {gap rest : List Char} (hgap : AreBlank gap)
    (hrest : BeginsInk rest) : afterLabel? label (label.toList ++ (gap ++ rest)) = some rest := by
  rw [afterLabel?, if_pos (Text.startsWith_iff.mpr (List.prefix_append _ _)), List.drop_left,
    dropWhile_isBlank_append hgap hrest]

theorem exists_of_afterLabel? {label : String} {cs rest : List Char}
    (h : afterLabel? label cs = some rest) :
    ∃ gap, cs = label.toList ++ (gap ++ rest) ∧ AreBlank gap := by
  rw [afterLabel?] at h
  split_ifs at h with hstart
  obtain ⟨more, rfl⟩ := Text.startsWith_iff.mp hstart
  rw [List.drop_left, Option.some.injEq] at h
  refine ⟨more.takeWhile Text.isBlank, ?_, fun c hc => List.mem_takeWhile_imp hc⟩
  rw [← h, List.takeWhile_append_dropWhile]

section Search

variable {α : Type} {f : List Char → Option α} {cs : List Char}

theorem search_of_some {a : α} (h : f cs = some a) : search f cs = some a := by
  cases cs with
  | nil => exact h
  | cons c cs => rw [search, h]

theorem search_cons_of_none {c : Char} (h : f (c :: cs) = none) :
    search f (c :: cs) = search f cs := by
  rw [search, h]

theorem isSome_search_iff :
    (search f cs).isSome ↔ ∃ before rest, cs = before ++ rest ∧ (f rest).isSome := by
  induction cs with
  | nil =>
    simp [search]
  | cons c cs ih =>
    cases hf : f (c :: cs) with
    | some a => exact iff_of_true (by simp [search_of_some hf]) ⟨[], c :: cs, rfl, by simp [hf]⟩
    | none =>
      rw [search_cons_of_none hf, ih]
      constructor
      · rintro ⟨before, rest, rfl, h⟩
        exact ⟨c :: before, rest, rfl, h⟩
      · rintro ⟨before, rest, hcs, h⟩
        cases before with
        | nil => simp_all
        | cons c' before => exact ⟨before, rest, (List.cons.inj hcs).2, h⟩

end Search

section Labelled

variable {α : Type} {label : String} {g : List Char → Option α} {kind : List Char → Prop}

theorem search_margin {margin : List Char} (hlabel : BeginsInk label.toList)
    (hmargin : AreBlank margin) (cs : List Char) :
    search (fun cs => (afterLabel? label cs).bind g) (margin ++ cs) =
      search (fun cs => (afterLabel? label cs).bind g) cs := by
  induction margin with
  | nil => rfl
  | cons c margin ih =>
    obtain ⟨hc, hmargin⟩ := List.forall_mem_cons.mp hmargin
    have hno : afterLabel? label (c :: (margin ++ cs)) = none := by
      obtain ⟨d, label', hd, hink⟩ := hlabel
      have hcd : (d == c) = false := by
        rw [beq_eq_false_iff_ne]
        rintro rfl
        exact Bool.false_ne_true (hink.symm.trans hc)
      rw [afterLabel?, hd, Text.startsWith, List.isPrefixOf, hcd, Bool.false_and]
      rfl
    rw [List.cons_append, search_cons_of_none (by rw [hno, Option.bind_none])]
    exact ih hmargin

theorem search_rendered {margin gap rest : List Char} {a : α} (hlabel : BeginsInk label.toList)
    (hmargin : AreBlank margin) (hgap : AreBlank gap) (hrest : BeginsInk rest)
    (hg : g rest = some a) :
    search (fun cs => (afterLabel? label cs).bind g)
      (margin ++ (label.toList ++ (gap ++ rest))) = some a := by
  rw [search_margin hlabel hmargin]
  refine search_of_some ?_
  rw [afterLabel?_append hgap hrest, Option.bind_some, hg]

/-- A search finds a label exactly if the line names something after it. -/
theorem isSome_search_labelled_iff {line : List Char}
    (hg : ∀ cs, (g cs).isSome ↔ ∃ found after, cs = found ++ after ∧ kind found)
    (hkind : ∀ found, kind found → BeginsInk found) :
    (search (fun cs => (afterLabel? label cs).bind g) line).isSome ↔ Names label kind line := by
  rw [isSome_search_iff]
  constructor
  · rintro ⟨before, rest, rfl, hrest⟩
    obtain ⟨a, ha⟩ := Option.isSome_iff_exists.mp hrest
    obtain ⟨named, hnamed, hfound⟩ := Option.bind_eq_some_iff.mp ha
    obtain ⟨gap, rfl, hgap⟩ := exists_of_afterLabel? hnamed
    obtain ⟨found, after, rfl, hkind⟩ := (hg named).mp (by rw [hfound]; rfl)
    exact ⟨before, gap, found, after, rfl, hgap, hkind⟩
  · rintro ⟨before, gap, found, after, rfl, hgap, hfound⟩
    refine ⟨before, _, rfl, ?_⟩
    rw [afterLabel?_append hgap ((hkind found hfound).append after), Option.bind_some]
    exact (hg _).mpr ⟨found, after, rfl, hfound⟩

end Labelled

/-! ## What a line says -/

/-- What announces a setting. -/
def settingLabel : String := "Power Setting GUID:"

/-- What announces an index on mains. -/
def acLabel : String := "Current AC Power Setting Index:"

/-- What announces an index on battery. -/
def dcLabel : String := "Current DC Power Setting Index:"

/-- The index at the start of a text. -/
def index? : List Char → Option Nat
  | '0' :: 'x' :: rest =>
    let digits := rest.takeWhile isHex
    if digits.isEmpty then none
    else some (Numeral.ofDigits 16 (digits.filterMap Text.hexValue?))
  | _ => none

theorem labelledIndex?_eq (label : String) :
    labelledIndex? label = fun cs => (afterLabel? label cs).bind index? := by
  funext cs
  rw [labelledIndex?]
  cases afterLabel? label cs with
  | none => rfl
  | some rest =>
    rw [Option.bind_some, index?.eq_def]
    split
    · rename_i h
      cases h
      rfl
    · rename_i hno
      split
      · exact absurd rfl (hno _)
      · rfl

theorem ofChars_eq (cs : List Char) : ListingLine.ofChars cs =
    match search (labelledGuid? settingLabel) cs with
    | some (guid, _) => .setting guid
    | none =>
      match search (labelledIndex? acLabel) cs with
      | some n => .ac n
      | none =>
        match search (labelledIndex? dcLabel) cs with
        | some n => .dc n
        | none => .other := rfl

theorem IsGuid.beginsInk {guid : List Char} (h : IsGuid guid) : BeginsInk guid := by
  obtain ⟨run, more, rfl, hlength, hhex, -⟩ := areRuns_cons_cons_iff.mp h
  cases run with
  | nil => cases hlength
  | cons c run => exact ⟨c, _, rfl, isBlank_of_isHex (hhex c List.mem_cons_self)⟩

theorem IsIndex.beginsInk {cs : List Char} (h : IsIndex cs) : BeginsInk cs := by
  obtain ⟨digits, rfl, -⟩ := h
  exact ⟨'0', _, rfl, by decide⟩

theorem guid?_append {guid : List Char} (h : IsGuid guid) (after : List Char) :
    guid? (guid ++ after) = some (Text.lower (String.ofList guid), after) := by
  rw [guid?, guidShape, hexRuns?_eq_some_iff.mpr ⟨rfl, h⟩]
  rfl

theorem isSome_guid?_iff {cs : List Char} :
    (guid? cs).isSome ↔ ∃ found after, cs = found ++ after ∧ IsGuid found := by
  rw [guid?, Option.isSome_map, Option.isSome_iff_exists, Prod.exists]
  exact exists₂_congr fun _ _ => hexRuns?_eq_some_iff

theorem isSome_index?_iff {cs : List Char} :
    (index? cs).isSome ↔ ∃ found after, cs = found ++ after ∧ IsIndex found := by
  rw [index?.eq_def]
  constructor
  · intro h
    split at h
    · rename_i rest
      refine ⟨'0' :: 'x' :: rest.takeWhile isHex, rest.dropWhile isHex, ?_, _, rfl, ?_, ?_⟩
      · simp
      · intro hnil
        simp [hnil] at h
      · exact fun c hc => List.mem_takeWhile_imp hc
    · cases h
  · rintro ⟨_, after, rfl, digits, rfl, hne, hhex⟩
    simp only [List.cons_append]
    rw [List.takeWhile_append_of_pos hhex, if_neg (by simp [hne])]
    rfl

/-- A line announces a setting. -/
def Announces (line : List Char) : Prop := Names settingLabel IsGuid line

/-- A line says nothing. -/
def IsNoise (line : List Char) : Prop :=
  ¬ Announces line ∧ ¬ Names acLabel IsIndex line ∧ ¬ Names dcLabel IsIndex line

theorem isSome_search_guid_iff {line : List Char} :
    (search (labelledGuid? settingLabel) line).isSome ↔ Announces line :=
  isSome_search_labelled_iff (fun _ => isSome_guid?_iff) fun _ => IsGuid.beginsInk

theorem isSome_search_index_iff {label : String} {line : List Char} :
    (search (labelledIndex? label) line).isSome ↔ Names label IsIndex line := by
  rw [labelledIndex?_eq]
  exact isSome_search_labelled_iff (fun _ => isSome_index?_iff) fun _ => IsIndex.beginsInk

theorem exists_ofChars_eq_setting_iff {line : List Char} :
    (∃ guid, ListingLine.ofChars line = .setting guid) ↔ Announces line := by
  rw [← isSome_search_guid_iff, ofChars_eq]
  cases search (labelledGuid? settingLabel) line with
  | some found => simp
  | none =>
    cases search (labelledIndex? acLabel) line <;>
      cases search (labelledIndex? dcLabel) line <;> simp

theorem ofChars_eq_other_iff {line : List Char} :
    ListingLine.ofChars line = .other ↔ IsNoise line := by
  rw [IsNoise, ← isSome_search_guid_iff, ← isSome_search_index_iff, ← isSome_search_index_iff,
    ofChars_eq]
  cases search (labelledGuid? settingLabel) line with
  | some found => simp
  | none =>
    cases search (labelledIndex? acLabel) line <;>
      cases search (labelledIndex? dcLabel) line <;> simp

/-! ## Rendered lines -/

/-- The line that announces a setting: after the GUID anything may follow. -/
def ShowsSetting (guid line : List Char) : Prop :=
  ∃ margin gap after, line = margin ++ (settingLabel.toList ++ (gap ++ (guid ++ after))) ∧
    AreBlank margin ∧ AreBlank gap ∧ IsGuid guid

theorem ShowsSetting.isGuid {guid line : List Char} (h : ShowsSetting guid line) : IsGuid guid := by
  obtain ⟨_, _, _, _, _, _, hguid⟩ := h
  exact hguid

/-- Hexadecimal digits in either case for a number, after any number of zeros. -/
def Spells (digits : List Char) (n : Nat) : Prop :=
  ∃ zeros, digits.map Char.toLower = List.replicate zeros '0' ++ Nat.toDigits 16 n

/-- The line with an index, of any length. -/
def ShowsIndex (label : String) (n : Nat) (line : List Char) : Prop :=
  ∃ margin gap digits tail,
    line = margin ++ (label.toList ++ (gap ++ ('0' :: 'x' :: digits ++ tail))) ∧
      AreBlank margin ∧ AreBlank gap ∧ AreBlank tail ∧ Spells digits n

theorem ofChars_of_showsSetting {guid line : List Char} (h : ShowsSetting guid line) :
    ListingLine.ofChars line = .setting (Text.lower (String.ofList guid)) := by
  obtain ⟨margin, gap, after, rfl, hmargin, hgap, hguid⟩ := h
  have hfound : search (labelledGuid? settingLabel)
      (margin ++ (settingLabel.toList ++ (gap ++ (guid ++ after)))) =
        some (Text.lower (String.ofList guid), after) :=
    search_rendered ⟨'P', _, rfl, by decide⟩ hmargin hgap (hguid.beginsInk.append after)
      (guid?_append hguid after)
  rw [ofChars_eq, hfound]

theorem hexValue?_toLower (c : Char) : Text.hexValue? c.toLower = Text.hexValue? c :=
  Text.forall_toLower (p := fun c d => Text.hexValue? d = Text.hexValue? c)
    (by decide +kernel) (fun _ => rfl) c

theorem hexValue?_digitChar : ∀ d < 16, Text.hexValue? (Nat.digitChar d) = some d := by decide

theorem value_toDigits (n : Nat) :
    (∀ c ∈ Nat.toDigits 16 n, isHex c = true) ∧
      Numeral.ofDigits 16 ((Nat.toDigits 16 n).filterMap Text.hexValue?) = n := by
  induction n using Nat.strongRecOn with
  | ind n ih =>
    by_cases hn : n < 16
    · rw [Nat.toDigits_of_lt_base hn]
      simp [isHex, hexValue?_digitChar n hn, Numeral.ofDigits]
    · have hlast := hexValue?_digitChar (n % 16) (Nat.mod_lt n (by decide))
      obtain ⟨hhex, hvalue⟩ := ih (n / 16) (Nat.div_lt_self (by omega) (by decide))
      rw [Nat.toDigits_of_base_le (by decide) (not_lt.mp hn)]
      constructor
      · refine List.forall_mem_append.mpr ⟨hhex, ?_⟩
        simp [isHex, hlast]
      · rw [List.filterMap_append, Numeral.ofDigits, List.foldl_append, ← Numeral.ofDigits, hvalue]
        simp [hlast, Nat.div_add_mod']

theorem ofDigits_replicate_zero (base k : Nat) :
    Numeral.ofDigits base (List.replicate k 0) = 0 := by
  induction k with
  | zero => rfl
  | succ k ih => simpa [Numeral.ofDigits, List.replicate_succ] using ih

theorem value_of_spells {digits : List Char} {n : Nat} (h : Spells digits n) :
    digits ≠ [] ∧ (∀ c ∈ digits, isHex c = true) ∧
      Numeral.ofDigits 16 (digits.filterMap Text.hexValue?) = n := by
  obtain ⟨zeros, hdigits⟩ := h
  obtain ⟨hhex, hvalue⟩ := value_toDigits n
  have hlower : (digits.map Char.toLower).filterMap Text.hexValue? =
      digits.filterMap Text.hexValue? := by
    rw [List.filterMap_map]
    exact List.filterMap_congr fun c _ => hexValue?_toLower c
  refine ⟨?_, fun c hc => ?_, ?_⟩
  · rintro rfl
    have hnil := (List.append_eq_nil_iff.mp hdigits.symm).2
    exact Nat.toDigits_ne_nil hnil
  · have hmem : c.toLower ∈ List.replicate zeros '0' ++ Nat.toDigits 16 n :=
      hdigits ▸ List.mem_map_of_mem hc
    have hc' : isHex c.toLower = true := by
      rcases List.mem_append.mp hmem with h0 | hn
      · rw [List.eq_of_mem_replicate h0]
        rfl
      · exact hhex _ hn
    rwa [isHex, hexValue?_toLower] at hc'
  · have hzero : Text.hexValue? '0' = some 0 := rfl
    rw [← hlower, hdigits, List.filterMap_append, List.filterMap_replicate_of_some hzero,
      Numeral.ofDigits, List.foldl_append, ← Numeral.ofDigits, ofDigits_replicate_zero]
    exact hvalue

theorem index?_append {digits tail : List Char} {n : Nat} (h : Spells digits n)
    (htail : AreBlank tail) : index? ('0' :: 'x' :: digits ++ tail) = some n := by
  obtain ⟨hne, hhex, hvalue⟩ := value_of_spells h
  have hstop : tail.takeWhile isHex = [] := by
    cases tail with
    | nil => rfl
    | cons c tail =>
      refine List.takeWhile_cons_of_neg fun hc => ?_
      exact Bool.false_ne_true ((isBlank_of_isHex hc).symm.trans (htail c List.mem_cons_self))
  simp only [List.cons_append, index?]
  rw [List.takeWhile_append_of_pos hhex, hstop, List.append_nil, if_neg (by simpa using hne),
    hvalue]

theorem not_names_of_not_mem {label : String} {kind : List Char → Prop} {line : List Char}
    {c : Char} (hc : c ∈ label.toList) (hline : c ∉ line) : ¬ Names label kind line := by
  rintro ⟨before, gap, found, after, rfl, -⟩
  simp [hc] at hline

/-- What is rendered behind the label of an index. -/
def indexEnd (gap digits tail : List Char) : List Char := gap ++ ('0' :: 'x' :: digits ++ tail)

theorem not_mem_indexEnd {gap digits tail : List Char} {n : Nat} {c : Char} (hgap : AreBlank gap)
    (h : Spells digits n) (htail : AreBlank tail) (hblank : Text.isBlank c = false)
    (hhex : isHex c = false) (hmark : c ∉ ['0', 'x']) : c ∉ indexEnd gap digits tail := by
  obtain ⟨-, hdigits, -⟩ := value_of_spells h
  have hnot : ∀ {cs : List Char}, AreBlank cs → c ∉ cs := fun hcs hc =>
    Bool.false_ne_true (hblank.symm.trans (hcs c hc))
  have hno : c ∉ digits := fun hc => Bool.false_ne_true (hhex.symm.trans (hdigits c hc))
  simp only [indexEnd, List.mem_append, List.mem_cons, not_or] at hmark ⊢
  exact ⟨hnot hgap, ⟨hmark.1, hmark.2.1, hno⟩, hnot htail⟩

theorem search_acLabel_dcLabel (rest : List Char) :
    search (labelledIndex? acLabel) (dcLabel.toList ++ rest) =
      search (labelledIndex? acLabel) rest := rfl

section Index

variable {margin gap digits tail : List Char} {n : Nat} (hmargin : AreBlank margin)
  (hgap : AreBlank gap) (hspells : Spells digits n) (htail : AreBlank tail)

include hmargin hgap hspells htail

/-- A line with an index announces no setting: it has no G. -/
theorem search_guid_index {label : String} (hlabel : 'G' ∉ label.toList) :
    search (labelledGuid? settingLabel) (margin ++ (label.toList ++ indexEnd gap digits tail)) =
      none := by
  rw [← Option.not_isSome_iff_eq_none, isSome_search_guid_iff]
  refine not_names_of_not_mem (c := 'G') (by decide) ?_
  have hend := not_mem_indexEnd (c := 'G') hgap hspells htail (by decide) (by decide) (by decide)
  have hblank : 'G' ∉ margin := fun hc => Bool.false_ne_true (hmargin 'G' hc)
  simp [hend, hblank, hlabel]

theorem search_index {label : String} (hlabel : BeginsInk label.toList) :
    search (labelledIndex? label) (margin ++ (label.toList ++ indexEnd gap digits tail)) =
      some n := by
  rw [labelledIndex?_eq]
  exact search_rendered hlabel hmargin hgap ⟨'0', _, rfl, by decide⟩ (index?_append hspells htail)

theorem ofChars_ac :
    ListingLine.ofChars (margin ++ (acLabel.toList ++ indexEnd gap digits tail)) = .ac n := by
  rw [ofChars_eq, search_guid_index hmargin hgap hspells htail (by decide),
    search_index hmargin hgap hspells htail ⟨'C', _, rfl, by decide⟩]

/-- A line with an index on battery has none on mains: behind its label there is no u. -/
theorem ofChars_dc :
    ListingLine.ofChars (margin ++ (dcLabel.toList ++ indexEnd gap digits tail)) = .dc n := by
  have hac : search (labelledIndex? acLabel)
      (margin ++ (dcLabel.toList ++ indexEnd gap digits tail)) = none := by
    have hno : ¬ Names acLabel IsIndex (indexEnd gap digits tail) :=
      not_names_of_not_mem (c := 'u') (by decide)
        (not_mem_indexEnd hgap hspells htail (by decide) (by decide) (by decide))
    rw [← isSome_search_index_iff, Option.not_isSome_iff_eq_none] at hno
    rw [labelledIndex?_eq, search_margin ⟨'C', _, rfl, by decide⟩ hmargin, ← labelledIndex?_eq,
      search_acLabel_dcLabel, hno]
  rw [ofChars_eq, search_guid_index hmargin hgap hspells htail (by decide), hac,
    search_index hmargin hgap hspells htail ⟨'C', _, rfl, by decide⟩]

end Index

theorem ofChars_of_showsAc {n : Nat} {line : List Char} (h : ShowsIndex acLabel n line) :
    ListingLine.ofChars line = .ac n := by
  obtain ⟨margin, gap, digits, tail, rfl, hmargin, hgap, htail, hspells⟩ := h
  exact ofChars_ac hmargin hgap hspells htail

theorem ofChars_of_showsDc {n : Nat} {line : List Char} (h : ShowsIndex dcLabel n line) :
    ListingLine.ofChars line = .dc n := by
  obtain ⟨margin, gap, digits, tail, rfl, hmargin, hgap, htail, hspells⟩ := h
  exact ofChars_dc hmargin hgap hspells htail

/-! ## Rows -/

/-- The settings that lines announce, each with its indexes. -/
def rows : List ListingLine → List (String × Reading)
  | [] => []
  | .setting guid :: ls => (guid, indexes ⟨.null, .null⟩ ls) :: rows ls
  | _ :: ls => rows ls

theorem readingsOfLines_eq (rs : Readings) (ls : List ListingLine) :
    readingsOfLines rs ls = (rows ls).foldl (fun acc e => acc.insert e.1 e.2) rs := by
  fun_induction readingsOfLines rs ls with
  | case1 rs => rfl
  | case2 rs guid ls ih => rw [ih, rows, List.foldl_cons]
  | case3 rs l ls hno ih => rw [ih, rows.eq_3 _ _ hno]

theorem readings_eq (output : String) : readings output = .ofList (rows (linesOf output)) :=
  readingsOfLines_eq [] _

/-- Whether a line announces a setting. -/
def isSetting : ListingLine → Bool
  | .setting _ => true
  | _ => false

theorem indexes_append {next : List ListingLine} (hnext : next.head?.all isSetting)
    (r : Reading) (ls : List ListingLine) : indexes r (ls ++ next) = indexes r ls := by
  fun_induction indexes r ls with
  | case1 r =>
    cases next with
    | nil => rfl
    | cons l next => cases l <;> first | rfl | cases hnext
  | case2 => rfl
  | case3 r ac ls ih => exact ih
  | case4 r dc ls ih => exact ih
  | case5 r ls ih => exact ih

theorem rows_append {next : List ListingLine} (hnext : next.head?.all isSetting)
    (ls : List ListingLine) : rows (ls ++ next) = rows ls ++ rows next := by
  induction ls with
  | nil => rfl
  | cons l ls ih =>
    cases l with
    | setting guid =>
      simp only [List.cons_append, rows, ih, indexes_append hnext]
    | _ => exact ih

theorem rows_eq_nil {ls : List ListingLine} (h : ∀ l ∈ ls, isSetting l = false) : rows ls = [] := by
  induction ls with
  | nil => rfl
  | cons l ls ih =>
    obtain ⟨hl, hls⟩ := List.forall_mem_cons.mp h
    cases l with
    | setting guid => cases hl
    | _ => exact ih hls

theorem indexes_filter (r : Reading) (ls : List ListingLine) :
    indexes r (ls.filter (· != .other)) = indexes r ls := by
  fun_induction indexes r ls with
  | case1 r => rfl
  | case2 => rfl
  | case3 r ac ls ih => exact ih
  | case4 r dc ls ih => exact ih
  | case5 r ls ih => exact ih

theorem rows_filter (ls : List ListingLine) : rows (ls.filter (· != .other)) = rows ls := by
  induction ls with
  | nil => rfl
  | cons l ls ih =>
    cases l with
    | setting guid =>
      have hkeep : (ListingLine.setting guid :: ls).filter (· != .other) =
          .setting guid :: ls.filter (· != .other) := rfl
      rw [hkeep, rows, rows, ih, indexes_filter]
    | _ => exact ih

/-! ## Listings -/

/-- A setting in a listing. -/
structure Entry where
  guid : List Char
  ac : Option Nat
  dc : Option Nat

/-- The row that an entry stands for. -/
def Entry.row (e : Entry) : String × Reading :=
  (String.ofList (e.guid.map Char.toLower),
    ⟨LiveValues.side (e.ac.map Int.ofNat), LiveValues.side (e.dc.map Int.ofNat)⟩)

/-- The lines for one side of a setting: one, or none if it has no index there. -/
def ShowsSide (label : String) : Option Nat → List (List Char) → Prop
  | none, lines => lines = []
  | some n, lines => ∃ line, lines = [line] ∧ ShowsIndex label n line

/-- The lines of an entry. -/
def Entry.Shows (e : Entry) (block : List (List Char)) : Prop :=
  ∃ head mains battery, block = head :: (mains ++ battery) ∧ ShowsSetting e.guid head ∧
    ShowsSide acLabel e.ac mains ∧ ShowsSide dcLabel e.dc battery

/-- Lines, and what is left of them without some of those that say nothing. -/
inductive Strewn : List (List Char) → List (List Char) → Prop where
  | nil : Strewn [] []
  | noise {line : List Char} {lines kept : List (List Char)} :
    IsNoise line → Strewn lines kept → Strewn (line :: lines) kept
  | keep {line : List Char} {lines kept : List (List Char)} :
    Strewn lines kept → Strewn (line :: lines) (line :: kept)

/-- An output lists entries: it has their lines, in order, with anything that announces no setting
before them and noise between them. -/
def Lists (output : String) (entries : List Entry) : Prop :=
  ∃ before blocks,
    Strewn ((Text.lines output).map String.toList) (before ++ List.flatten blocks) ∧
      (∀ line ∈ before, ¬ Announces line) ∧ List.Forall₂ Entry.Shows entries blocks

theorem filter_of_strewn {lines kept : List (List Char)} (h : Strewn lines kept) :
    (lines.map ListingLine.ofChars).filter (· != .other) =
      (kept.map ListingLine.ofChars).filter (· != .other) := by
  induction h with
  | nil => rfl
  | noise hnoise _ ih =>
    rw [List.map_cons, ofChars_eq_other_iff.mpr hnoise]
    exact ih
  | keep _ ih => rw [List.map_cons, List.map_cons, List.filter_cons, List.filter_cons, ih]

theorem forall_mem_intercalate {p : Char → Prop} {sep : List Char} {runs : List (List Char)}
    (hsep : ∀ c ∈ sep, p c) (hruns : ∀ run ∈ runs, ∀ c ∈ run, p c) :
    ∀ c ∈ sep.intercalate runs, p c := by
  induction runs with
  | nil => simp
  | cons run runs ih =>
    obtain ⟨hrun, hruns⟩ := List.forall_mem_cons.mp hruns
    cases runs with
    | nil => simpa using hrun
    | cons run' runs =>
      rw [List.intercalate_cons_cons]
      exact List.forall_mem_append.mpr ⟨List.forall_mem_append.mpr ⟨hrun, hsep⟩, ih hruns⟩

theorem toNat_lt_of_isGuid {guid : List Char} (h : IsGuid guid) : ∀ c ∈ guid, c.toNat < 128 := by
  obtain ⟨runs, rfl, -, hhex⟩ := h
  refine forall_mem_intercalate (p := fun c => c.toNat < 128)
    (List.forall_mem_singleton.mpr (by decide)) fun run hrun c hc => ?_
  have := toNat_of_isHex (hhex run hrun c hc)
  omega

theorem lower_guid {guid : List Char} (h : IsGuid guid) :
    Text.lower (String.ofList guid) = String.ofList (guid.map Char.toLower) := by
  rw [Text.lower, String.toList_ofList, Text.lowerFrom_of_ascii (toNat_lt_of_isGuid h)]

theorem map_ofChars_side {label : String} {f : Nat → ListingLine}
    (hf : ∀ n line, ShowsIndex label n line → ListingLine.ofChars line = f n)
    {side : Option Nat} {lines : List (List Char)} (h : ShowsSide label side lines) :
    lines.map ListingLine.ofChars = (side.map f).toList := by
  cases side with
  | none =>
    cases h
    rfl
  | some n =>
    obtain ⟨line, rfl, hline⟩ := h
    rw [List.map_singleton, hf n line hline]
    rfl

/-- The lines of an entry give its row, whatever is announced next. -/
theorem rows_block {e : Entry} {block : List (List Char)} {next : List ListingLine}
    (h : e.Shows block) (hnext : next.head?.all isSetting) :
    rows (block.map ListingLine.ofChars ++ next) = e.row :: rows next := by
  obtain ⟨head, mains, battery, rfl, hhead, hmains, hbattery⟩ := h
  have hsides : (mains ++ battery).map ListingLine.ofChars =
      (e.ac.map ListingLine.ac).toList ++ (e.dc.map ListingLine.dc).toList := by
    rw [List.map_append, map_ofChars_side (fun _ _ => ofChars_of_showsAc) hmains,
      map_ofChars_side (fun _ _ => ofChars_of_showsDc) hbattery]
  rw [List.map_cons, ofChars_of_showsSetting hhead, hsides, List.cons_append, rows,
    indexes_append hnext, rows_append hnext, lower_guid hhead.isGuid, Entry.row]
  cases e.ac <;> cases e.dc <;> rfl

theorem rows_blocks {entries : List Entry} {blocks : List (List (List Char))}
    (h : List.Forall₂ Entry.Shows entries blocks) :
    rows (blocks.flatten.map ListingLine.ofChars) = entries.map Entry.row ∧
      (blocks.flatten.map ListingLine.ofChars).head?.all isSetting := by
  induction h with
  | nil => exact ⟨rfl, rfl⟩
  | @cons e block entries blocks hblock _ ih =>
    obtain ⟨ih, hnext⟩ := ih
    rw [List.flatten_cons, List.map_append]
    refine ⟨by rw [rows_block hblock hnext, ih, List.map_cons], ?_⟩
    obtain ⟨head, mains, battery, rfl, hhead, -⟩ := hblock
    rw [List.map_cons, ofChars_of_showsSetting hhead]
    rfl

theorem rows_of_lists {output : String} {entries : List Entry} (h : Lists output entries) :
    rows (linesOf output) = entries.map Entry.row := by
  obtain ⟨before, blocks, hstrewn, hbefore, hblocks⟩ := h
  obtain ⟨hrows, hhead⟩ := rows_blocks hblocks
  have hlines : linesOf output =
      ((Text.lines output).map String.toList).map ListingLine.ofChars := by
    rw [linesOf, List.map_map]
    rfl
  have hnone : rows (before.map ListingLine.ofChars) = [] := by
    refine rows_eq_nil (List.forall_mem_map.mpr fun line hline => ?_)
    have hno := mt exists_ofChars_eq_setting_iff.mp (hbefore line hline)
    cases hsays : ListingLine.ofChars line with
    | setting guid => exact absurd ⟨guid, hsays⟩ hno
    | _ => rfl
  rw [hlines, ← rows_filter, filter_of_strewn hstrewn, rows_filter, List.map_append,
    rows_append hhead, hnone, List.nil_append, hrows]

/-! ## Two listings -/

theorem map_toList_lines (s : String) :
    (Text.lines s).map String.toList = Text.linesFrom [] s.toList := by
  rw [Text.lines, List.map_map]
  exact List.map_id'' (fun _ => String.toList_ofList) _

/-- A line end ends what is before it, and it is a line of its own if nothing is. -/
theorem linesFrom_append (cur a b : List Char) : ∃ blank, (blank = [] ∨ blank = [[]]) ∧
    Text.linesFrom cur (a ++ '\n' :: b) =
      Text.linesFrom cur a ++ blank ++ Text.linesFrom [] b := by
  fun_induction Text.linesFrom cur a with
  | case1 cur hempty =>
    rw [List.isEmpty_iff] at hempty
    subst hempty
    exact ⟨[[]], .inr rfl, rfl⟩
  | case2 cur hne => exact ⟨[], .inl rfl, rfl⟩
  | case3 cur cs ih =>
    obtain ⟨blank, hblank, ih⟩ := ih
    refine ⟨blank, hblank, ?_⟩
    rw [List.cons_append, List.cons_append, Text.linesFrom, ih]
    rfl
  | case4 cur c cs hno hend ih =>
    obtain ⟨blank, hblank, ih⟩ := ih
    by_cases hreturn : c = '\r' ∧ cs = []
    · obtain ⟨rfl, rfl⟩ := hreturn
      exact ⟨[], .inl rfl, rfl⟩
    · refine ⟨blank, hblank, ?_⟩
      have hno' : ∀ cs', c = '\r' → cs ++ '\n' :: b = '\n' :: cs' → False := by
        intro cs' hc hcs
        cases cs with
        | nil => exact hreturn ⟨hc, rfl⟩
        | cons d ds => exact hno ds hc (by rw [(List.cons.inj hcs).1])
      rw [List.cons_append, Text.linesFrom.eq_3 _ _ _ hno', if_pos hend, ih]
      rfl
  | case5 cur c cs hno hend ih =>
    obtain ⟨blank, hblank, ih⟩ := ih
    refine ⟨blank, hblank, ?_⟩
    have hno' : ∀ cs', c = '\r' → cs ++ '\n' :: b = '\n' :: cs' → False := by
      rintro cs' rfl
      exact absurd rfl hend
    rw [List.cons_append, Text.linesFrom.eq_3 _ _ _ hno', if_neg hend, ih]

/-- The rows of a listing behind another one come after its rows. -/
theorem rows_linesOf_append {a b : String}
    (hb : ∃ line more, Text.lines b = line :: more ∧ Announces line.toList) :
    rows (linesOf (a ++ "\n" ++ b)) = rows (linesOf a) ++ rows (linesOf b) := by
  obtain ⟨line, more, hlines, hline⟩ := hb
  obtain ⟨guid, hguid⟩ := exists_ofChars_eq_setting_iff.mpr hline
  obtain ⟨blank, hblank, hsplit⟩ := linesFrom_append [] a.toList b.toList
  have hlinesOf : linesOf (a ++ "\n" ++ b) = linesOf a ++
      (blank.map fun l => ListingLine.ofChars (String.ofList l).toList) ++ linesOf b := by
    have htext : (a ++ "\n" ++ b).toList = a.toList ++ '\n' :: b.toList := by simp
    simp only [linesOf, Text.lines, htext, hsplit, List.map_append, List.map_map]
    rfl
  have hnext : (linesOf b).head?.all isSetting := by
    rw [linesOf, hlines, List.map_cons, hguid]
    rfl
  have hsilent : (blank.map fun l => ListingLine.ofChars (String.ofList l).toList).filter
      (· != .other) = [] := by
    rcases hblank with rfl | rfl <;> rfl
  rw [hlinesOf, rows_append hnext, ← rows_filter (_ ++ _), List.filter_append, hsilent,
    List.append_nil, rows_filter]

/-- **Listings read back.** The readings in a listing are those of its entries, by GUIDs in lower
case and in the order in which these first stand, each as a whole from the last entry with its GUID;
and a listing behind another one is read as if it were written over it. -/
theorem readings_read_back :
    (∀ output entries, Lists output entries → (readings output).Holds (entries.map Entry.row)) ∧
      ∀ a b, (∃ line more, Text.lines b = line :: more ∧ Announces line.toList) →
        readings (a ++ "\n" ++ b) = (readings a).update (readings b) := by
  refine ⟨fun output entries hlists => ?_, fun a b hb => ?_⟩
  · rw [readings_eq, rows_of_lists hlists]
    exact Readings.holds_ofList _
  · rw [readings_eq, readings_eq, readings_eq, rows_linesOf_append hb, Readings.ofList_append]

/-- A GUID in capitals. -/
def diskGuid : String := "6738E2C4-E8A5-4A42-B16A-E040E769756E"

/-- The line that announces a setting. -/
def diskLine : String := settingLabel ++ (" " ++ (diskGuid ++ "  (Disk)"))

/-- The lines of a setting. -/
def diskLines : String :=
  diskLine ++ "\n  Unit: s" ++ "\n  Current AC Power Setting Index: 0x04B0" ++
    "\n  Current DC Power Setting Index: 0x0"

theorem showsSetting_disk : ShowsSetting diskGuid.toList diskLine.toList := by
  let runs := ["6738E2C4".toList, "E8A5".toList, "4A42".toList, "B16A".toList,
    "E040E769756E".toList]
  have hhex : runs.all (fun run => run.all isHex) = true := by decide +kernel
  have hline : diskLine.toList =
      [] ++ (settingLabel.toList ++ ([' '] ++ (diskGuid.toList ++ "  (Disk)".toList))) := by
    rw [diskLine, String.toList_append, String.toList_append, String.toList_append]
    rfl
  exact ⟨[], [' '], _, hline, by decide, by decide, runs, by decide +kernel, by decide,
    fun run hrun => List.all_eq_true.mp (List.all_eq_true.mp hhex run hrun)⟩

theorem readings_read_back_disk :
    let entry : Entry := ⟨diskGuid.toList, some 1200, some 0⟩
    let output := "Current AC Power Setting Index: 0x7\n" ++ diskLines
    (Lists output [entry] ∧ (readings output).Holds [entry.row]) ∧
      readings (diskLines ++ "\n" ++ diskLines) =
        (readings diskLines).update (readings diskLines) := by
  intro entry output
  have hac : ListingLine.ofChars "Current AC Power Setting Index: 0x7".toList = .ac 7 := by
    decide +kernel
  have hnoise : ListingLine.ofChars "  Unit: s".toList = .other := by decide +kernel
  have hlines : Text.linesFrom [] diskLines.toList = [diskLine.toList, "  Unit: s".toList,
      "  Current AC Power Setting Index: 0x04B0".toList,
      "  Current DC Power Setting Index: 0x0".toList] := by
    rw [diskLines, String.toList_append, String.toList_append, String.toList_append, diskLine,
      String.toList_append, String.toList_append, String.toList_append]
    decide +kernel
  have houtput : Text.linesFrom [] output.toList = "Current AC Power Setting Index: 0x7".toList ::
      Text.linesFrom [] diskLines.toList := by
    rw [String.toList_append]
    rfl
  have hlists : Lists output [entry] := by
    refine ⟨["Current AC Power Setting Index: 0x7".toList],
      [[diskLine.toList, "  Current AC Power Setting Index: 0x04B0".toList,
        "  Current DC Power Setting Index: 0x0".toList]], ?_, ?_, ?_⟩
    · rw [map_toList_lines, houtput, hlines]
      exact .keep (.keep (.noise (ofChars_eq_other_iff.mp hnoise) (.keep (.keep .nil))))
    · refine List.forall_mem_singleton.mpr fun hannounces => ?_
      obtain ⟨guid, hguid⟩ := exists_ofChars_eq_setting_iff.mpr hannounces
      cases hac.symm.trans hguid
    · refine .cons ⟨_, [_], [_], rfl, showsSetting_disk, ⟨_, rfl, ?_⟩, ⟨_, rfl, ?_⟩⟩ .nil
      · exact ⟨"  ".toList, [' '], "04B0".toList, [], by decide +kernel, by decide, by decide,
          by decide, 1, by decide⟩
      · exact ⟨"  ".toList, [' '], "0".toList, [], by decide +kernel, by decide, by decide,
          by decide, 0, by decide⟩
  have hhead : ∃ line more, Text.lines diskLines = line :: more ∧ Announces line.toList := by
    obtain ⟨margin, gap, after, hline, -, hgap, hguid⟩ := showsSetting_disk
    refine ⟨diskLine, _, by rw [Text.lines, hlines, List.map_cons, String.ofList_toList], ?_⟩
    exact ⟨margin, gap, _, after, hline, hgap, hguid⟩
  exact ⟨⟨hlists, readings_read_back.1 output [entry] hlists⟩,
    readings_read_back.2 diskLines diskLines hhead⟩

end Listing

end Provision
