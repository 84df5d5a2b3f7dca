import Mathlib
import Provision.Proofs.Excerpt
import Provision.Proofs.Listing

/-!
# Notations of binary data

Binary data is given as bytes, as a list of integers, or as a text of hexadecimal digits among which
any other characters may stand.

* `Text.IsHexDigit`, `Text.IsDigitFor`: hexadecimal digits, and those of a number.
* `Value.Spells`: digits that are written for bytes; `Value.Denotes`: values that stand for bytes.
* `Invocation.arrayBytes?`: the bytes that an array in a script denotes.
* `Literal.pairBytes?_of_spells`, `Literal.integers_of_forall₂`: the bytes in a text and in a list.
* **`Literal.binary_notations_agree`**: all notations of the same bytes have one literal, which
  reads back as the bytes, and an odd number of digits gives the empty array.
-/

namespace Provision

/-! ## Hexadecimal digits -/

namespace Text

/-- The hexadecimal digits in lower case, each at the place of its value. -/
def lowerDigits : List Char := "0123456789abcdef".toList

/-- The same in upper case. -/
def upperDigits : List Char := "0123456789ABCDEF".toList

/-- A character is a hexadecimal digit. -/
def IsHexDigit (c : Char) : Prop := c ∈ lowerDigits ∨ c ∈ upperDigits

instance : DecidablePred IsHexDigit := fun _ => inferInstanceAs (Decidable (_ ∨ _))

/-- A character is the digit for a number below sixteen, in either case. -/
def IsDigitFor (n : Nat) (c : Char) : Prop := lowerDigits[n]? = some c ∨ upperDigits[n]? = some c

theorem isHexDigit_iff_exists {c : Char} : IsHexDigit c ↔ ∃ n, IsDigitFor n c := by
  simp only [IsHexDigit, IsDigitFor, List.mem_iff_getElem?, exists_or]

theorem hexValue?_of_isDigitFor {n : Nat} {c : Char} (h : IsDigitFor n c) :
    hexValue? c = some n := by
  have hlower : ∀ e ∈ lowerDigits.zipIdx, hexValue? e.1 = some e.2 := by decide
  have hupper : ∀ e ∈ upperDigits.zipIdx, hexValue? e.1 = some e.2 := by decide
  rcases h with h | h
  · exact hlower (c, n) (List.mem_zipIdx_iff_getElem?.mpr h)
  · exact hupper (c, n) (List.mem_zipIdx_iff_getElem?.mpr h)

theorem isSome_hexValue?_iff {c : Char} : (hexValue? c).isSome = true ↔ IsHexDigit c := by
  constructor
  · intro h
    have hall : ∀ n < 128, (hexValue? (Char.ofNat n)).isSome = true →
        IsHexDigit (Char.ofNat n) := by decide +kernel
    have hrange := Listing.toNat_of_isHex (c := c) h
    have hchar := hall c.toNat (by omega)
    rw [Char.ofNat_toNat] at hchar
    exact hchar h
  · intro h
    obtain ⟨n, hn⟩ := isHexDigit_iff_exists.mp h
    rw [hexValue?_of_isDigitFor hn]
    rfl

theorem filterMap_hexValue?_filter (cs : List Char) :
    (cs.filter fun c => IsHexDigit c).filterMap hexValue? = cs.filterMap hexValue? := by
  rw [List.filterMap_filter]
  refine List.filterMap_congr fun c _ => ?_
  split
  · rfl
  · rename_i hno
    have hnone : ¬ (hexValue? c).isSome = true := mt isSome_hexValue?_iff.mp (by simpa using hno)
    rw [Option.not_isSome_iff_eq_none.mp hnone]

theorem length_filterMap_hexValue? (cs : List Char) :
    (cs.filterMap hexValue?).length = cs.countP fun c => IsHexDigit c := by
  rw [List.length_filterMap_eq_countP]
  refine List.countP_congr fun c _ => ?_
  rw [isSome_hexValue?_iff, decide_eq_true_iff]

end Text

/-! ## Values that stand for bytes -/

namespace Value

/-- Digits are written for bytes: two for each, the higher first, in either case. -/
inductive Spells : List Char → List UInt8 → Prop where
  | nil : Spells [] []
  | cons {high low : Char} {b : UInt8} {digits : List Char} {bs : List UInt8} :
    Text.IsDigitFor (b.toNat / 16) high → Text.IsDigitFor (b.toNat % 16) low →
      Spells digits bs → Spells (high :: low :: digits) (b :: bs)

/-- A value is an integer with the low byte `b`; truth values are integers. -/
def HasLowByte (v : Value) (b : UInt8) : Prop :=
  ∃ n, v.keyNumber? = some n ∧ n ≡ b.toNat [ZMOD 256]

/-- A value stands for bytes: it holds the bytes themselves, integers with these low bytes, or the
digits of the bytes with any other characters among them. -/
inductive Denotes : Value → List UInt8 → Prop where
  | bytes (bs : List UInt8) : Denotes (.bytes bs) bs
  | list {vs : List Value} {bs : List UInt8} :
    List.Forall₂ HasLowByte vs bs → Denotes (.list vs) bs
  | tuple {vs : List Value} {bs : List UInt8} :
    List.Forall₂ HasLowByte vs bs → Denotes (.tuple vs) bs
  | text {s : String} {bs : List UInt8} :
    Spells (s.toList.filter fun c => Text.IsHexDigit c) bs → Denotes (.str s) bs

theorem toInteger_of_keyNumber? {v : Value} {n : Int} (h : v.keyNumber? = some n) :
    v.toInteger = .ok n := by
  cases v with
  | bool b | int m =>
    cases h
    rfl
  | _ => cases h

end Value

/-! ## Arrays of bytes -/

namespace Invocation

/-- The items between the brackets of an array, which commas part. -/
def arrayItems? (source : String) : Option (List String) :=
  match source.toList with
  | '@' :: '(' :: cs =>
    if cs.getLast? = some ')' then
      some (if cs.dropLast = [] then []
        else (Text.splitChars ',' cs.dropLast).map String.ofList)
    else none
  | _ => none

/-- The bytes that an array denotes. -/
def arrayBytes? (source : String) : Option (List Nat) :=
  (arrayItems? source).bind fun items => items.mapM unhex?

theorem arrayItems?_array {items : List String} (hne : ∀ item ∈ items, item ≠ "")
    (h : ∀ item ∈ items, ',' ∉ item.toList) : arrayItems? (Literal.array items) = some items := by
  have hbody : (Literal.array items).toList =
      '@' :: '(' :: ([','].intercalate (items.map String.toList) ++ [')']) := by
    simp [Literal.array, Text.join, String.toList_intercalate]
  rw [arrayItems?, hbody]
  simp only [List.getLast?_concat, if_true, List.dropLast_concat]
  cases items with
  | nil => rfl
  | cons item items =>
    have hpieces : Text.splitChars ',' ([','].intercalate ((item :: items).map String.toList)) =
        (item :: items).map String.toList :=
      Text.splitChars_intercalate (List.cons_ne_nil _ _) (List.forall_mem_map.mpr h)
    have hbody : [','].intercalate ((item :: items).map String.toList) ≠ [] := by
      intro hnil
      rw [hnil] at hpieces
      have hitem : [] = item.toList := (List.cons.inj hpieces).1
      exact hne item List.mem_cons_self (String.toList_eq_nil_iff.mp hitem.symm)
    rw [if_neg hbody, hpieces, List.map_map]
    exact congrArg some (List.map_id'' (fun _ => String.ofList_toList) _)

theorem arrayBytes?_byteArray (bs : List UInt8) :
    arrayBytes? (Literal.byteArray (bs.map fun b => (b.toNat : Int))) =
      some (bs.map UInt8.toNat) := by
  have hlow : ∀ b : UInt8, ((b.toNat : Int) % 256).toNat = b.toNat := by
    intro b
    have := b.toNat_lt
    omega
  have hitems : (bs.map fun b => (b.toNat : Int)).map Literal.hexOf =
      bs.map fun b => "0x" ++ Text.hexByte b.toNat := by
    simp [Literal.hexOf, hlow]
  have hcomma : ∀ n < 16, Text.hexDigitUpper n ≠ ',' := by decide
  have hread : (unhex? ∘ fun b : UInt8 => "0x" ++ Text.hexByte b.toNat) = fun b => pure b.toNat :=
    funext fun b => unhex?_hexByte b.toNat_lt
  rw [arrayBytes?, Literal.byteArray, hitems, arrayItems?_array, Option.bind_some, List.mapM_map,
    hread, List.mapM_pure]
  · rfl
  · refine List.forall_mem_map.mpr fun b _ hempty => ?_
    have hnil := congrArg String.toList hempty
    rw [toList_hexByte] at hnil
    cases hnil
  · refine List.forall_mem_map.mpr fun b _ hmem => ?_
    rw [toList_hexByte] at hmem
    simp only [List.mem_cons, List.not_mem_nil, or_false] at hmem
    rcases hmem with h | h | h | h
    · cases h
    · cases h
    · exact hcomma _ (Nat.mod_lt _ (by decide)) h.symm
    · exact hcomma _ (Nat.mod_lt _ (by decide)) h.symm

end Invocation

/-! ## Literals of binary data -/

namespace Literal

theorem pairBytes?_of_spells {digits : List Char} {bs : List UInt8}
    (h : Value.Spells digits bs) :
    pairBytes? (digits.filterMap Text.hexValue?) = some (bs.map fun b => (b.toNat : Int)) := by
  induction h with
  | nil => rfl
  | cons hhigh hlow _ ih =>
    rw [List.filterMap_cons_some (Text.hexValue?_of_isDigitFor hhigh),
      List.filterMap_cons_some (Text.hexValue?_of_isDigitFor hlow), pairBytes?, ih, Option.map_some,
      List.map_cons, Nat.div_add_mod']

theorem pairBytes?_of_odd {ds : List Nat} (h : Odd ds.length) : pairBytes? ds = none := by
  fun_induction pairBytes? ds with
  | case1 => exact absurd h (by decide)
  | case2 hi lo rest ih =>
    rw [ih (by simpa [Nat.odd_add] using h)]
    rfl
  | case3 => rfl

theorem integers_of_forall₂ {vs : List Value} {bs : List UInt8}
    (h : List.Forall₂ Value.HasLowByte vs bs) : ∃ ns, integers vs = .ok ns ∧
      ns.map hexOf = bs.map fun b => hexOf b.toNat := by
  induction h with
  | nil => exact ⟨[], rfl, rfl⟩
  | cons hv _ ih =>
    obtain ⟨n, hn, hmod⟩ := hv
    obtain ⟨ns, hns, hall⟩ := ih
    refine ⟨n :: ns, ?_, ?_⟩
    · rw [integers, Value.toInteger_of_keyNumber? hn, hns]
      rfl
    · rw [List.map_cons, List.map_cons, hall, hexOf, hexOf, hmod]

theorem value_of_denotes {v : Value} {bs : List UInt8} (h : v.Denotes bs) :
    value v .binary = .ok (byteArray (bs.map fun b => (b.toNat : Int))) := by
  cases h with
  | bytes => rfl
  | list hvs | tuple hvs =>
    obtain ⟨ns, hns, hmap⟩ := integers_of_forall₂ hvs
    simp only [value, binary, Value.opened, hns, Except.map, byteArray, hmap, List.map_map]
    rfl
  | text hspells =>
    have hpairs := pairBytes?_of_spells hspells
    rw [Text.filterMap_hexValue?_filter] at hpairs
    simp only [value, binary, Value.opened, textBytes?, hpairs, Option.getD_some]

/-- **All notations of the same bytes have one literal, which reads back as the bytes**; a text with
an odd number of hexadecimal digits has the empty array. -/
theorem binary_notations_agree :
    (∀ bs : List UInt8, ∃ literal, Invocation.arrayBytes? literal = some (bs.map UInt8.toNat) ∧
      ∀ v : Value, v.Denotes bs → value v .binary = .ok literal) ∧
    ∀ s : String, Odd (s.toList.countP fun c => Text.IsHexDigit c) →
      value (.str s) .binary = .ok "@()" := by
  constructor
  · intro bs
    exact ⟨_, Invocation.arrayBytes?_byteArray bs, fun v => value_of_denotes⟩
  · intro s hodd
    rw [← Text.length_filterMap_hexValue?] at hodd
    simp only [value, binary, Value.opened, textBytes?, pairBytes?_of_odd hodd]
    rfl

/-- Two bytes, as integers outside their range, and as digits in both cases around a hyphen. -/
theorem binary_notations_agree_mixed :
    (Value.Denotes (.list [.int 266, .int (-1)]) [10, 255] ∧
      Value.Denotes (.str "0a-Ff") [10, 255] ∧
      ∃ literal, Invocation.arrayBytes? literal = some [10, 255] ∧
        value (.list [.int 266, .int (-1)]) .binary = .ok literal ∧
        value (.str "0a-Ff") .binary = .ok literal) ∧
    Odd ("0a-F".toList.countP fun c => Text.IsHexDigit c) ∧
      value (.str "0a-F") .binary = .ok "@()" := by
  have hlist : Value.Denotes (.list [.int 266, .int (-1)]) [10, 255] :=
    .list (.cons ⟨266, rfl, by decide⟩ (.cons ⟨-1, rfl, by decide⟩ .nil))
  have htext : Value.Denotes (.str "0a-Ff") [10, 255] := by
    have hdigits : "0a-Ff".toList.filter (fun c => Text.IsHexDigit c) = ['0', 'a', 'F', 'f'] := by
      decide
    refine .text ?_
    rw [hdigits]
    exact .cons (.inl rfl) (.inl rfl) (.cons (.inr rfl) (.inl rfl) .nil)
  have hodd : Odd ("0a-F".toList.countP fun c => Text.IsHexDigit c) := by decide
  obtain ⟨literal, hread, hall⟩ := binary_notations_agree.1 [10, 255]
  exact ⟨⟨hlist, htext, literal, hread, hall _ hlist, hall _ htext⟩, hodd,
    binary_notations_agree.2 "0a-F" hodd⟩

end Literal

end Provision
