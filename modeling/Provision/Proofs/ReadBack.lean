import Mathlib
import Provision.Proofs.Documents
import Provision.Proofs.Section

/-!
# Reading registry commands back

* `Invocation`: a line of the script as a helper with the sources of its arguments, by parameter.
* `Invocation.read?`: reads a line as a call; what stands between quotes is passed over.
* `Invocation.text?`, `Invocation.number?`, `Invocation.byte?`, `Invocation.flag?`: what an argument
  denotes.
* **`Invocation.read?_text`**: a call is read back from its line if its arguments end where they
  should.
* `Literal.isDelimited_of_value`: the literals of all kinds of values do.
* `Target.Asks`: what the calls for a target have to say.
* **`draftAssignment_reads_back`**: they say it, at every level.
-/

namespace Provision

/-! ## Arguments -/

/-- A line of the script: a helper, and the source of an argument for each of its parameters. -/
structure Invocation where
  helper : String
  arguments : List (String × String)
deriving DecidableEq, Repr

namespace Invocation

/-- Reads up to the first quote that is not doubled: the text that this denotes, in which two quotes
are one, and what follows. -/
def readQuoted : List Char → Option (List Char × List Char)
  | [] => none
  | '\'' :: '\'' :: cs => (readQuoted cs).map fun r => ('\'' :: r.1, r.2)
  | '\'' :: cs => some ([], cs)
  | c :: cs => (readQuoted cs).map fun r => (c :: r.1, r.2)

/-- What follows the bracket that closes an array; a bracket between quotes is none. -/
def afterArray (quoted : Bool) : List Char → Option (List Char)
  | [] => none
  | c :: cs =>
    if c = '\'' then afterArray (!quoted) cs
    else if c = ')' && !quoted then some cs
    else afterArray quoted cs

/-- What follows an argument: a text between quotes, an array, or a word up to the next blank. -/
def afterArgument : List Char → Option (List Char)
  | '\'' :: cs => (readQuoted cs).map Prod.snd
  | '@' :: '(' :: cs => afterArray false cs
  | cs => some (cs.dropWhile (· ≠ ' '))

theorem length_readQuoted {cs : List Char} {r : List Char × List Char}
    (h : readQuoted cs = some r) : r.2.length ≤ cs.length := by
  fun_induction readQuoted cs generalizing r with
  | case1 => cases h
  | case2 cs ih =>
    obtain ⟨r, hr, rfl⟩ := Option.map_eq_some_iff.mp h
    have := ih hr
    simp only [List.length_cons]
    omega
  | case3 cs =>
    cases h
    simp
  | case4 c cs _ _ ih =>
    obtain ⟨r, hr, rfl⟩ := Option.map_eq_some_iff.mp h
    have := ih hr
    simp only [List.length_cons]
    omega

theorem length_afterArray {quoted : Bool} {cs rest : List Char}
    (h : afterArray quoted cs = some rest) : rest.length ≤ cs.length := by
  induction cs generalizing quoted with
  | nil => cases h
  | cons c cs ih =>
    rw [afterArray] at h
    rw [List.length_cons]
    split at h
    · exact Nat.le_succ_of_le (ih h)
    split at h
    · cases h
      exact Nat.le_succ _
    · exact Nat.le_succ_of_le (ih h)

theorem length_afterArgument {cs rest : List Char} (h : afterArgument cs = some rest) :
    rest.length ≤ cs.length := by
  unfold afterArgument at h
  split at h
  · obtain ⟨r, hr, rfl⟩ := Option.map_eq_some_iff.mp h
    exact Nat.le_succ_of_le (length_readQuoted hr)
  · exact Nat.le_succ_of_le (Nat.le_succ_of_le (length_afterArray h))
  · cases h
    exact (List.dropWhile_sublist _).length_le

/-- The source of the argument that stands before `rest`. -/
def sourceBefore (rest cs : List Char) : String := String.ofList (cs.take (cs.length - rest.length))

/-- Reads a parameter, which follows a blank and a dash, with its argument after another blank. -/
def readArgument : List Char → Option ((String × String) × List Char)
  | ' ' :: '-' :: cs =>
    match cs.dropWhile (· ≠ ' ') with
    | ' ' :: value => (afterArgument value).map fun rest =>
      ((String.ofList (cs.takeWhile (· ≠ ' ')), sourceBefore rest value), rest)
    | _ => none
  | _ => none

theorem length_readArgument {cs : List Char} {r : (String × String) × List Char}
    (h : readArgument cs = some r) : r.2.length < cs.length := by
  unfold readArgument at h
  split at h
  · rename_i cs
    split at h
    · rename_i value hvalue
      obtain ⟨rest, hrest, rfl⟩ := Option.map_eq_some_iff.mp h
      have hle := length_afterArgument hrest
      have hdrop := (List.dropWhile_sublist (· ≠ ' ') (l := cs)).length_le
      rw [hvalue, List.length_cons] at hdrop
      simp only [List.length_cons]
      omega
    · cases h
  · cases h

/-- Reads parameters with their arguments up to the end of a line. -/
def readArguments (cs : List Char) : Option (List (String × String)) :=
  if cs.isEmpty then some []
  else
    match _ : readArgument cs with
    | some r => (readArguments r.2).map (r.1 :: ·)
    | none => none
termination_by cs.length
decreasing_by exact length_readArgument ‹_›

/-- Reads a line as a call, whatever the blanks in front of it. -/
def read? (line : String) : Option Invocation :=
  let cs := line.toList.dropWhile (· = ' ')
  (readArguments (cs.dropWhile (· ≠ ' '))).map fun arguments =>
    ⟨String.ofList (cs.takeWhile (· ≠ ' ')), arguments⟩

/-! ## What arguments denote -/

/-- The source of the argument for a parameter. -/
def source? (c : Invocation) (parameter : String) : Option String := c.arguments.lookup parameter

/-- The text that a source between quotes denotes. -/
def unquote? (source : String) : Option String :=
  match source.toList with
  | '\'' :: cs =>
    match readQuoted cs with
    | some (t, []) => some (String.ofList t)
    | _ => none
  | _ => none

/-- The byte that a source in hexadecimal notation denotes. -/
def unhex? (source : String) : Option Nat :=
  match source.toList with
  | ['0', 'x', high, low] => do
    let h ← Text.hexValue? high
    let l ← Text.hexValue? low
    return 16 * h + l
  | _ => none

/-- The truth value that a source denotes. -/
def unflag? (source : String) : Option Bool :=
  if source = "$true" then some true else if source = "$false" then some false else none

/-- The text for a parameter. -/
def text? (c : Invocation) (parameter : String) : Option String :=
  (c.source? parameter).bind unquote?

/-- The number for a parameter. -/
def number? (c : Invocation) (parameter : String) : Option Nat :=
  (c.source? parameter).bind String.toNat?

/-- The byte for a parameter. -/
def byte? (c : Invocation) (parameter : String) : Option Nat := (c.source? parameter).bind unhex?

/-- The truth value for a parameter. -/
def flag? (c : Invocation) (parameter : String) : Option Bool := (c.source? parameter).bind unflag?

/-! ## Writing and reading -/

/-- The source of an argument: with a blank or nothing behind it, it is read to its end. -/
def IsDelimited (source : String) : Prop :=
  ∀ rest : List Char, (rest = [] ∨ rest.head? = some ' ') →
    afterArgument (source.toList ++ rest) = some rest

/-- The line that gives a call. -/
def text (c : Invocation) : String :=
  c.helper ++ String.join (c.arguments.map fun a => " -" ++ a.1 ++ " " ++ a.2)

/-- A call whose parts can be told apart in its line. -/
structure IsReadable (c : Invocation) : Prop where
  helper_ne : c.helper ≠ ""
  helper_blank : ' ' ∉ c.helper.toList
  parameters_blank : ∀ a ∈ c.arguments, ' ' ∉ a.1.toList
  delimited : ∀ a ∈ c.arguments, IsDelimited a.2

theorem takeWhile_word {word rest : List Char} (hword : ' ' ∉ word)
    (hrest : rest = [] ∨ rest.head? = some ' ') :
    (word ++ rest).takeWhile (· ≠ ' ') = word ∧ (word ++ rest).dropWhile (· ≠ ' ') = rest := by
  have hall : ∀ c ∈ word, (decide (c ≠ ' ')) = true := by
    intro c hc
    simpa using fun heq : c = ' ' => hword (heq ▸ hc)
  rw [List.takeWhile_append_of_pos hall, List.dropWhile_append_of_pos hall]
  cases rest with
  | nil => simp
  | cons c cs =>
    obtain h | h := hrest
    · cases h
    · simp only [List.head?_cons, Option.some.injEq] at h
      simp [h]

/-- The characters of parameters with their arguments. -/
def argumentChars (arguments : List (String × String)) : List Char :=
  arguments.flatMap fun a => ' ' :: '-' :: (a.1.toList ++ ' ' :: a.2.toList)

theorem argumentChars_head (arguments : List (String × String)) :
    argumentChars arguments = [] ∨ (argumentChars arguments).head? = some ' ' := by
  cases arguments with
  | nil => exact .inl rfl
  | cons a as => exact .inr rfl

theorem toList_text (c : Invocation) :
    c.text.toList = c.helper.toList ++ argumentChars c.arguments := by
  simp only [text, String.toList_append, String.toList_join, List.flatMap_map, argumentChars]
  congr 1
  exact List.flatMap_congr fun a _ => by simp

theorem readArgument_cons {a : String × String} {rest : List Char} (hblank : ' ' ∉ a.1.toList)
    (ha : IsDelimited a.2) (hrest : rest = [] ∨ rest.head? = some ' ') :
    readArgument (' ' :: '-' :: (a.1.toList ++ ' ' :: a.2.toList) ++ rest) = some (a, rest) := by
  obtain ⟨hname, hvalue⟩ := @takeWhile_word _ (' ' :: (a.2.toList ++ rest)) hblank (.inr rfl)
  simp only [List.cons_append, List.append_assoc, readArgument, hname, hvalue, ha rest hrest,
    sourceBefore, List.length_append, Nat.add_sub_cancel, List.take_left, String.ofList_toList,
    Option.map_some]

theorem readArguments_argumentChars {arguments : List (String × String)}
    (hblank : ∀ a ∈ arguments, ' ' ∉ a.1.toList) (hdelimited : ∀ a ∈ arguments, IsDelimited a.2) :
    readArguments (argumentChars arguments) = some arguments := by
  induction arguments with
  | nil => rw [readArguments]; rfl
  | cons a as ih =>
    obtain ⟨ha, has⟩ := List.forall_mem_cons.mp hblank
    obtain ⟨ha', has'⟩ := List.forall_mem_cons.mp hdelimited
    have hread := readArgument_cons ha ha' (argumentChars_head as)
    rw [readArguments, argumentChars, List.flatMap_cons, if_neg (by simp)]
    split
    · rename_i r hr
      obtain rfl := Option.some.inj (hread.symm.trans hr)
      rw [show readArguments (argumentChars as) = some as from ih has has']
      rfl
    · rename_i hnone
      cases hread.symm.trans hnone

/-- **A call is read back from its line**, at any level. -/
theorem read?_text {c : Invocation} (h : c.IsReadable) (level : Int) :
    read? (Line.plain level c.text).text = some c := by
  have hne : c.text ≠ "" := by
    intro hempty
    have hnil := congrArg String.toList hempty
    rw [toList_text, String.toList_empty, List.append_eq_nil_iff, String.toList_eq_nil_iff] at hnil
    exact h.helper_ne hnil.1
  have hmargin : ∀ ch ∈ (Line.margin level).toList, (decide (ch = ' ')) = true := by
    simp [Line.margin, String.toList_join, Line.unit]
  have hblank : ((Line.margin level).toList ++ c.text.toList).dropWhile (· = ' ') =
      c.text.toList := by
    rw [List.dropWhile_append_of_pos hmargin, toList_text]
    cases hhelper : c.helper.toList with
    | nil => exact absurd (String.toList_eq_nil_iff.mp hhelper) h.helper_ne
    | cons ch chs =>
      have hch : ch ≠ ' ' := fun heq => h.helper_blank (by simp [hhelper, heq])
      simp [hch]
  obtain ⟨htake, hdrop⟩ := takeWhile_word h.helper_blank (argumentChars_head c.arguments)
  rw [read?, Line.plain, if_neg hne]
  simp only [String.toList_append]
  rw [hblank, toList_text, htake, hdrop,
    readArguments_argumentChars h.parameters_blank h.delimited, String.ofList_toList]
  rfl

/-! ## Where literals end -/

/-- A text that was written between quotes ends at the quote behind it. -/
theorem readQuoted_escapeChars (cs : List Char) {rest : List Char}
    (hrest : rest.head? ≠ some '\'') :
    readQuoted (Literal.escapeChars cs ++ '\'' :: rest) = some (cs, rest) := by
  induction cs with
  | nil =>
    cases rest with
    | nil => rfl
    | cons c rest =>
      have hc : c ≠ '\'' := fun heq => hrest (by simp [heq])
      simp [Literal.escapeChars, readQuoted, hc]
  | cons c cs ih =>
    rw [Literal.escapeChars_cons]
    split
    · rename_i hc
      simp [hc, readQuoted, ih]
    · rename_i hc
      simp [hc, readQuoted, ih]

theorem head_ne_quote {rest : List Char} (h : rest = [] ∨ rest.head? = some ' ') :
    rest.head? ≠ some '\'' := by
  rcases h with rfl | h
  · simp
  · simp [h]

theorem isDelimited_quote (s : String) : IsDelimited (Literal.quote s) := by
  intro rest hrest
  have hread := readQuoted_escapeChars s.toList (head_ne_quote hrest)
  simp [Literal.quote, Literal.escape, afterArgument, hread]

@[simp] theorem unquote?_quote (s : String) : unquote? (Literal.quote s) = some s := by
  have hread := @readQuoted_escapeChars s.toList [] (by simp)
  simp [Literal.quote, Literal.escape, unquote?, hread]

/-- A word: neither quotes nor brackets open it, and no blank is in it. -/
structure IsWord (source : String) : Prop where
  blank : ' ' ∉ source.toList
  head_ne : source.toList.head? ≠ some '\'' ∧ source.toList.head? ≠ some '@'
  ne_nil : source.toList ≠ []

theorem IsWord.isDelimited {source : String} (h : IsWord source) : IsDelimited source := by
  intro rest hrest
  obtain ⟨c, cs, hcs⟩ := List.exists_cons_of_ne_nil h.ne_nil
  have hdrop := (takeWhile_word h.blank hrest).2
  have hquote : c ≠ '\'' := fun heq => h.head_ne.1 (by simp [hcs, heq])
  have hat : c ≠ '@' := fun heq => h.head_ne.2 (by simp [hcs, heq])
  rw [hcs] at hdrop ⊢
  unfold afterArgument
  split
  · rename_i heq
    exact absurd (List.cons.inj heq).1 hquote
  · rename_i heq
    exact absurd (List.cons.inj heq).1 hat
  · rw [hdrop]

/-- Between the brackets of an array, a source after which the array is still open. -/
def IsEnclosed (source : String) : Prop :=
  ∀ rest : List Char, afterArray false (source.toList ++ rest) = afterArray false rest

theorem afterArray_escapeChars (cs rest : List Char) :
    afterArray true (Literal.escapeChars cs ++ rest) = afterArray true rest := by
  induction cs with
  | nil => rfl
  | cons c cs ih =>
    rw [Literal.escapeChars_cons]
    split
    · rename_i hc
      simp [hc, afterArray, ih]
    · rename_i hc
      simp [hc, afterArray, ih]

theorem isEnclosed_quote (s : String) : IsEnclosed (Literal.quote s) := by
  intro rest
  simp [Literal.quote, Literal.escape, afterArray, afterArray_escapeChars]

theorem isEnclosed_of_plain {source : String}
    (h : ∀ c ∈ source.toList, c ≠ '\'' ∧ c ≠ ')') : IsEnclosed source := by
  intro rest
  generalize source.toList = cs at h
  induction cs with
  | nil => rfl
  | cons c cs ih =>
    obtain ⟨hc, hcs⟩ := List.forall_mem_cons.mp h
    simp [afterArray, hc.1, hc.2, ih hcs]

theorem IsEnclosed.append {source more : String} (h : IsEnclosed source) (h' : IsEnclosed more) :
    IsEnclosed (source ++ more) := by
  intro rest
  rw [String.toList_append, List.append_assoc, h, h']

theorem isEnclosed_join {items : List String} (h : ∀ item ∈ items, IsEnclosed item) :
    IsEnclosed (Text.join "," items) := by
  have hcomma : IsEnclosed "," := isEnclosed_of_plain (by simp)
  rw [Text.join]
  induction items with
  | nil => exact isEnclosed_of_plain fun c hc => absurd hc (by simp)
  | cons item items ih =>
    obtain ⟨hitem, hitems⟩ := List.forall_mem_cons.mp h
    cases items with
    | nil => simpa using hitem
    | cons next items =>
      rw [String.intercalate_cons_cons]
      exact (hitem.append hcomma).append (ih hitems)

/-- An array ends at its bracket, whatever stands between quotes in it. -/
theorem isDelimited_array {items : List String} (h : ∀ item ∈ items, IsEnclosed item) :
    IsDelimited (Literal.array items) := by
  intro rest _
  have hjoin := isEnclosed_join h
  simp [Literal.array, afterArgument, hjoin (')' :: rest), afterArray]

theorem isWord_of_forall {source : String} (hne : source ≠ "")
    (h : ∀ c ∈ source.toList, c ≠ ' ' ∧ c ≠ '\'' ∧ c ≠ '@') : IsWord source where
  blank hmem := (h _ hmem).1 rfl
  head_ne := by
    refine ⟨fun heq => ?_, fun heq => ?_⟩
    · exact (h _ (List.mem_of_head? heq)).2.1 rfl
    · exact (h _ (List.mem_of_head? heq)).2.2 rfl
  ne_nil heq := hne (String.toList_eq_nil_iff.mp heq)

theorem digit_ne {c : Char} (h : c.isDigit = true) : c ≠ ' ' ∧ c ≠ '\'' ∧ c ≠ '@' := by
  refine ⟨?_, ?_, ?_⟩ <;> (rintro rfl; cases h)

theorem isDigit_of_mem_repr {n : Nat} {c : Char} (h : c ∈ (Nat.repr n).toList) :
    c.isDigit = true := by
  rw [Nat.repr_eq_ofList_toDigits, String.toList_ofList] at h
  exact Nat.isDigit_of_mem_toDigits (by decide) (by decide) h

theorem isWord_natural (n : Nat) : IsWord (toString n) :=
  isWord_of_forall (Nat.repr_ne_empty) fun _ hc => digit_ne (isDigit_of_mem_repr hc)

theorem number?_of_natural {c : Invocation} {parameter : String} {n : Nat}
    (h : c.source? parameter = some (toString n)) : c.number? parameter = some n := by
  rw [number?, h, Option.bind_some]
  exact Nat.toNat?_repr n

theorem isWord_integer (n : Int) : IsWord (toString n) := by
  cases n with
  | ofNat n => exact isWord_natural n
  | negSucc n =>
    refine @isWord_of_forall ("-" ++ Nat.repr (n + 1)) (by simp) fun c hc => ?_
    rw [String.toList_append, List.mem_append] at hc
    rcases hc with hc | hc
    · obtain rfl : c = '-' := by simpa using hc
      decide
    · exact digit_ne (isDigit_of_mem_repr hc)

theorem hexDigitUpper_ne :
    ∀ n < 16, Text.hexDigitUpper n ≠ ' ' ∧ Text.hexDigitUpper n ≠ '\'' ∧
      Text.hexDigitUpper n ≠ '@' ∧ Text.hexDigitUpper n ≠ ')' := by decide

theorem hexValue?_hexDigitUpper :
    ∀ n < 16, Text.hexValue? (Text.hexDigitUpper n) = some n := by decide

theorem toList_hexByte (n : Nat) : ("0x" ++ Text.hexByte n).toList =
    ['0', 'x', Text.hexDigitUpper (n / 16 % 16), Text.hexDigitUpper (n % 16)] := by
  simp [Text.hexByte]

theorem isWord_hexByte (n : Nat) : IsWord ("0x" ++ Text.hexByte n) := by
  obtain ⟨h₁, h₂, h₃, -⟩ := hexDigitUpper_ne (n / 16 % 16) (Nat.mod_lt _ (by decide))
  obtain ⟨h₁', h₂', h₃', -⟩ := hexDigitUpper_ne (n % 16) (Nat.mod_lt _ (by decide))
  refine isWord_of_forall (fun heq => ?_) fun c hc => ?_
  · have hnil := congrArg String.toList heq
    rw [toList_hexByte] at hnil
    cases hnil
  · rw [toList_hexByte] at hc
    simp only [List.mem_cons, List.not_mem_nil, or_false] at hc
    rcases hc with rfl | rfl | rfl | rfl
    · decide
    · decide
    · exact ⟨h₁, h₂, h₃⟩
    · exact ⟨h₁', h₂', h₃'⟩

theorem isEnclosed_hexByte (n : Nat) : IsEnclosed ("0x" ++ Text.hexByte n) := by
  obtain ⟨-, h₂, -, h₄⟩ := hexDigitUpper_ne (n / 16 % 16) (Nat.mod_lt _ (by decide))
  obtain ⟨-, h₂', -, h₄'⟩ := hexDigitUpper_ne (n % 16) (Nat.mod_lt _ (by decide))
  refine isEnclosed_of_plain fun c hc => ?_
  rw [toList_hexByte] at hc
  simp only [List.mem_cons, List.not_mem_nil, or_false] at hc
  rcases hc with rfl | rfl | rfl | rfl
  · decide
  · decide
  · exact ⟨h₂, h₄⟩
  · exact ⟨h₂', h₄'⟩

theorem unhex?_hexByte {n : Nat} (h : n < 256) : unhex? ("0x" ++ Text.hexByte n) = some n := by
  have hhigh := hexValue?_hexDigitUpper (n / 16 % 16) (Nat.mod_lt _ (by decide))
  have hlow := hexValue?_hexDigitUpper (n % 16) (Nat.mod_lt _ (by decide))
  have hsum : 16 * (n / 16 % 16) + n % 16 = n := by omega
  simp only [unhex?, toList_hexByte, hhigh, hlow, Option.bind_eq_bind, Option.bind_some,
    Option.pure_def, hsum]

end Invocation

/-! ## The literals of values -/

open Invocation

/-- The byte that a value stands for in a byte patch: an integer modulo 256, a single byte, and zero
for anything else. -/
def Value.replacementByte : Value → Nat
  | .int n => (n % 256).toNat
  | .bytes [b] => b.toNat
  | _ => 0

namespace Literal

theorem isDelimited_of_quoteValue? {v : Value} {l : String} (h : quoteValue? v = .ok l) :
    IsDelimited l := by
  unfold quoteValue? at h
  cases htext : v.text? with
  | error m => rw [htext] at h; cases h
  | ok s =>
    rw [htext] at h
    cases h
    exact isDelimited_quote s

theorem isEnclosed_of_quoteValue? {v : Value} {l : String} (h : quoteValue? v = .ok l) :
    IsEnclosed l := by
  unfold quoteValue? at h
  cases htext : v.text? with
  | error m => rw [htext] at h; cases h
  | ok s =>
    rw [htext] at h
    cases h
    exact isEnclosed_quote s

theorem isEnclosed_hexOf (n : Int) : IsEnclosed (hexOf n) := isEnclosed_hexByte _

theorem isDelimited_byteArray (bytes : List Int) : IsDelimited (byteArray bytes) := by
  refine isDelimited_array fun item hitem => ?_
  obtain ⟨n, -, rfl⟩ := List.mem_map.mp hitem
  exact isEnclosed_hexOf n

theorem isDelimited_of_number {v : Value} {l : String} (h : number v = .ok l) :
    IsDelimited l := by
  unfold number at h
  split at h
  · obtain rfl := Except.ok.inj h
    split <;> exact (isWord_of_forall (by decide) (by simp)).isDelimited
  · rename_i n
    unfold Value.text? at h
    split at h
    · obtain rfl := Except.ok.inj h
      exact (isWord_integer n).isDelimited
    · cases h
  · split at h <;> obtain rfl := Except.ok.inj h
    · split
      · exact (isWord_integer _).isDelimited
      · exact isDelimited_quote _
    · exact isDelimited_quote _
  · exact isDelimited_of_quoteValue? h

theorem isDelimited_of_binary {v : Value} {l : String} (h : binary v = .ok l) :
    IsDelimited l := by
  have hints : ∀ vs : List Value, (integers vs).map byteArray = .ok l → IsDelimited l := by
    intro vs hvs
    obtain ⟨ns, -, rfl⟩ := Except.exists_of_map_ok hvs
    exact isDelimited_byteArray ns
  unfold binary at h
  split at h
  · cases h
    exact isDelimited_byteArray _
  · exact hints _ h
  · exact hints _ h
  · cases h
    exact isDelimited_byteArray _
  · rename_i v _ _ _ _
    cases h
    refine isDelimited_array fun item hitem => ?_
    rw [List.mem_singleton.mp hitem, byte]
    split <;> exact isEnclosed_hexOf _

theorem isDelimited_of_texts {v : Value} {l : String} (h : texts v = .ok l) :
    IsDelimited l := by
  obtain ⟨items, hitems, rfl⟩ := Except.exists_of_map_ok h
  refine isDelimited_array fun item hitem => ?_
  obtain ⟨w, -, hw⟩ := Except.exists_of_mem_mapM hitems hitem
  exact isEnclosed_of_quoteValue? hw

/-- **The literals of all kinds of values end where they should.** -/
theorem isDelimited_of_value {v : Value} {kind : ValueKind} {l : String}
    (h : value v kind = .ok l) : IsDelimited l := by
  unfold value at h
  split at h
  · cases h
    exact (isWord_of_forall (by decide) (by simp)).isDelimited
  split at h
  · exact isDelimited_of_quoteValue? h
  · exact isDelimited_of_quoteValue? h
  · exact isDelimited_of_number h
  · exact isDelimited_of_number h
  · exact isDelimited_of_binary h
  · exact isDelimited_of_texts h
  · split at h
    · cases h
      split <;> exact (isWord_of_forall (by decide) (by simp)).isDelimited
    · exact isDelimited_of_quoteValue? h

theorem byteOf?_getD (v : Value) : (byteOf? v).getD 0 = v.replacementByte := by
  cases v with
  | int n => exact (Int.toNat_of_nonneg (Int.emod_nonneg n (by decide))).symm
  | bytes bs => rcases bs with _ | ⟨b, _ | _⟩ <;> rfl
  | _ => rfl

theorem byte_eq (v : Value) : (byte v).1 = hexOf ((byteOf? v).getD 0) := by
  unfold byte
  split
  · rename_i hn
    rw [hn]
    rfl
  · rename_i hn
    rw [hn]
    rfl

theorem replacementByte_lt (v : Value) : v.replacementByte < 256 := by
  unfold Value.replacementByte
  split
  · omega
  · exact UInt8.toNat_lt _
  · decide

theorem unhex?_byte (v : Value) : unhex? (byte v).1 = some v.replacementByte := by
  have hlt := replacementByte_lt v
  have hlow : ((v.replacementByte : Int) % 256).toNat = v.replacementByte := by omega
  rw [byte_eq, byteOf?_getD, hexOf, hlow, unhex?_hexByte hlt]

theorem isWord_byte (v : Value) : IsWord (byte v).1 := by
  rw [byte_eq]
  exact isWord_hexByte _

end Literal

/-! ## Registry commands -/

namespace Invocation

/-- A registry command: its path comes first, its description last. -/
def command (helper path : String) (middle : List (String × String)) (description : String) :
    Invocation :=
  ⟨helper, ("Path", Literal.quote path) :: (middle ++ [("Description", Literal.quote description)])⟩

/-- What all registry commands say: the helper, the path and the description, with the parameters
in between. -/
structure Addresses (c : Invocation) (helper path : String) (parameters : List String)
    (description : String) : Prop where
  helper_eq : c.helper = helper
  parameters_eq : c.arguments.map Prod.fst = "Path" :: (parameters ++ ["Description"])
  path_eq : c.text? "Path" = some path
  description_eq : c.text? "Description" = some description

theorem addresses_command (helper path description : String) {middle : List (String × String)}
    (h : "Description" ∉ middle.map Prod.fst) :
    (command helper path middle description).Addresses helper path (middle.map Prod.fst)
      description where
  helper_eq := rfl
  parameters_eq := by simp [command]
  path_eq := by simp [command, text?, source?]
  description_eq := by
    have hnone : middle.lookup "Description" = none := by
      rw [List.lookup_eq_none_iff]
      intro a ha
      simpa using fun heq : "Description" = a.1 => h (List.mem_map.mpr ⟨a, ha, heq.symm⟩)
    simp [command, text?, source?, List.lookup_cons, List.lookup_append, hnone]

/-- The source of an argument between the path and the description. -/
theorem source?_command {helper path description parameter source : String}
    {middle : List (String × String)} (hpath : parameter ≠ "Path")
    (h : middle.lookup parameter = some source) :
    (command helper path middle description).source? parameter = some source := by
  have hne : (parameter == "Path") = false := by simpa using hpath
  simp [command, source?, List.lookup_cons, List.lookup_append, hne, h]

theorem text?_command {helper path description parameter s : String}
    {middle : List (String × String)} (hpath : parameter ≠ "Path")
    (h : middle.lookup parameter = some (Literal.quote s)) :
    (command helper path middle description).text? parameter = some s := by
  rw [text?, source?_command hpath h, Option.bind_some, unquote?_quote]

theorem isReadable_command {helper path description : String} {middle : List (String × String)}
    (hhelper : helper ≠ "" ∧ ' ' ∉ helper.toList)
    (hmiddle : ∀ a ∈ middle, ' ' ∉ a.1.toList ∧ IsDelimited a.2) :
    (command helper path middle description).IsReadable := by
  have hall : ∀ a ∈ (command helper path middle description).arguments,
      ' ' ∉ a.1.toList ∧ IsDelimited a.2 := by
    intro a ha
    simp only [command, List.mem_cons, List.mem_append, List.not_mem_nil, or_false] at ha
    obtain rfl | ha | rfl := ha
    · exact ⟨show ' ' ∉ "Path".toList by decide, isDelimited_quote path⟩
    · exact hmiddle a ha
    · exact ⟨show ' ' ∉ "Description".toList by decide, isDelimited_quote description⟩
  exact ⟨hhelper.1, hhelper.2, fun a ha => (hall a ha).1, fun a ha => (hall a ha).2⟩

end Invocation

namespace Statement

/-- The call that a command is. -/
def invocation : Statement → Invocation
  | setValue path name type literal description =>
    command "Set-RegistryValue" path
      [("Name", Literal.quote name), ("Type", "'" ++ type ++ "'"), ("Value", literal)] description
  | removeValue path name description =>
    command "Remove-RegistryValue" path [("Name", Literal.quote name)] description
  | newKey path description => command "New-RegistryKey" path [] description
  | removeKey path description => command "Remove-RegistryKey" path [] description
  | setBit path name index mask on description =>
    command "Set-BinaryBit" path
      [("Name", Literal.quote name), ("ByteIndex", toString index),
        ("BitMask", "0x" ++ Text.hexByte mask), ("SetBit", if on then "$true" else "$false")]
      description
  | setByte path name index literal description =>
    command "Set-BinaryByte" path
      [("Name", Literal.quote name), ("ByteIndex", toString index), ("ByteValue", literal)]
      description

/-- The line of a command is the line of its call. -/
theorem text_eq (s : Statement) : s.text = s.invocation.text := by
  apply String.toList_injective
  unfold Statement.text
  cases s <;> simp [invocation, Invocation.text, command]

/-- The parts of a command that are written as they are end where they should. -/
def Delimited : Statement → Prop
  | setValue _ _ type literal _ => IsDelimited ("'" ++ type ++ "'") ∧ IsDelimited literal
  | setByte _ _ _ literal _ => IsDelimited literal
  | _ => True

theorem isReadable_invocation {s : Statement} (h : s.Delimited) : s.invocation.IsReadable := by
  have hname : ' ' ∉ "Name".toList := by decide
  have hindex : ' ' ∉ "ByteIndex".toList := by decide
  cases s with
  | setValue path name type literal description =>
    refine isReadable_command (by decide) ?_
    simp only [List.forall_mem_cons, List.not_mem_nil, false_implies, implies_true, and_true]
    exact ⟨⟨hname, isDelimited_quote name⟩, ⟨by decide, h.1⟩, by decide, h.2⟩
  | removeValue path name description =>
    refine isReadable_command (by decide) ?_
    simp only [List.forall_mem_cons, List.not_mem_nil, false_implies, implies_true, and_true]
    exact ⟨hname, isDelimited_quote name⟩
  | newKey path description => exact isReadable_command (by decide) nofun
  | removeKey path description => exact isReadable_command (by decide) nofun
  | setBit path name index mask on description =>
    refine isReadable_command (by decide) ?_
    simp only [List.forall_mem_cons, List.not_mem_nil, false_implies, implies_true, and_true]
    refine ⟨⟨hname, isDelimited_quote name⟩, ⟨hindex, (isWord_natural index).isDelimited⟩,
      ⟨by decide, (isWord_hexByte mask).isDelimited⟩, by decide, ?_⟩
    split <;> exact (isWord_of_forall (by decide) (by simp)).isDelimited
  | setByte path name index literal description =>
    refine isReadable_command (by decide) ?_
    simp only [List.forall_mem_cons, List.not_mem_nil, false_implies, implies_true, and_true]
    exact ⟨⟨hname, isDelimited_quote name⟩, ⟨hindex, (isWord_natural index).isDelimited⟩,
      by decide, h⟩

end Statement

/-! ## The commands of a target -/

theorem ValueKind.quote_typeName (kind : ValueKind) :
    "'" ++ kind.typeName ++ "'" = Literal.quote kind.typeName := by cases kind <;> decide

namespace Target

/-- What the calls that bring a target to a value have to say: the helper is that of its mode, and
what has to be removed is removed. -/
def Asks (t : Target) (v : Value) (description : String) (calls : List Invocation) : Prop :=
  let path := KeyPath.toDrive t.keyPath
  match t.mode with
  | .bit index mask => ∃ c, calls = [c] ∧
    c.Addresses "Set-BinaryBit" path ["Name", "ByteIndex", "BitMask", "SetBit"] description ∧
    c.text? "Name" = t.valueName ∧ c.number? "ByteIndex" = some index ∧
    c.byte? "BitMask" = some mask ∧ c.flag? "SetBit" = some v.turnsOn
  | .byte index => ∃ c, calls = [c] ∧
    c.Addresses "Set-BinaryByte" path ["Name", "ByteIndex", "ByteValue"] description ∧
    c.text? "Name" = t.valueName ∧ c.number? "ByteIndex" = some index ∧
    c.byte? "ByteValue" = some v.replacementByte
  | .subkey =>
    if v.isNull then ∃ c, calls = [c] ∧ c.Addresses "Remove-RegistryKey" path [] description
    else if v.isEmptyText then ∃ key c, calls = [key, c] ∧
      key.Addresses "New-RegistryKey" path [] description ∧
      c.Addresses "Set-RegistryValue" path ["Name", "Type", "Value"] description ∧
      c.text? "Name" = some "(Default)" ∧ c.text? "Type" = some "String" ∧
      c.source? "Value" = some "''"
    else ∃ c, calls = [c] ∧ c.Addresses "New-RegistryKey" path [] description
  | .plain =>
    if v.isNull then ∃ c, calls = [c] ∧
      c.Addresses "Remove-RegistryValue" path ["Name"] description ∧ c.text? "Name" = t.valueName
    else ∃ c, calls = [c] ∧
      c.Addresses "Set-RegistryValue" path ["Name", "Type", "Value"] description ∧
      c.text? "Name" = t.valueName ∧
      if v.isEmptyText then c.text? "Type" = some "String" ∧ c.source? "Value" = some "''"
      else c.text? "Type" = some t.kind.typeName ∧
        ∃ literal, Literal.value v t.kind = .ok literal ∧ c.source? "Value" = some literal

theorem delimited_of_statements {t : Target} {v : Value} {description : String}
    {commands : List Statement} (h : t.statements v description = .ok commands) :
    ∀ s ∈ commands, s.Delimited := by
  have htype : ∀ kind : ValueKind, IsDelimited ("'" ++ kind.typeName ++ "'") := by
    intro kind
    rw [kind.quote_typeName]
    exact isDelimited_quote _
  unfold statements statementsAt at h
  split at h
  · obtain ⟨_, -, h⟩ := Except.exists_of_bind_ok h
    cases h
    exact List.forall_mem_singleton.mpr trivial
  · obtain ⟨_, -, h⟩ := Except.exists_of_bind_ok h
    cases h
    exact List.forall_mem_singleton.mpr (Literal.isWord_byte v).isDelimited
  · cases h
    split
    · exact List.forall_mem_singleton.mpr trivial
    split
    · refine List.forall_mem_cons.mpr ⟨trivial, List.forall_mem_singleton.mpr ?_⟩
      exact ⟨htype .string, isDelimited_quote ""⟩
    · exact List.forall_mem_singleton.mpr trivial
  · split at h
    · cases h
      exact List.forall_mem_singleton.mpr trivial
    split at h
    · cases h
      exact List.forall_mem_singleton.mpr ⟨htype .string, isDelimited_quote ""⟩
    · obtain ⟨literal, hliteral, h⟩ := Except.exists_of_bind_ok h
      cases h
      exact List.forall_mem_singleton.mpr ⟨htype t.kind, Literal.isDelimited_of_value hliteral⟩

theorem asks_of_bit {t : Target} {index mask : Nat} (ht : t.WellFormed)
    (hmode : t.mode = .bit index mask) (v : Value) (description : String) :
    t.Asks v description [(Statement.setBit (KeyPath.toDrive t.keyPath) t.commandName index mask
      v.turnsOn description).invocation] := by
  have hname := ht.valueName_eq (by rw [hmode]; nofun)
  have hmask := (ht.mask_range index mask hmode).2
  unfold Asks
  rw [hmode]
  refine ⟨_, rfl, addresses_command _ _ _ (by simp), ?_, ?_, ?_, ?_⟩
  · rw [hname]
    exact text?_command (by decide) rfl
  · exact number?_of_natural (source?_command (by decide) rfl)
  · rw [byte?, Statement.invocation, source?_command (by decide) rfl, Option.bind_some]
    exact unhex?_hexByte (by omega)
  · rw [flag?, Statement.invocation, source?_command (by decide) rfl, Option.bind_some]
    cases v.turnsOn <;> rfl

theorem asks_of_byte {t : Target} {index : Nat} (ht : t.WellFormed) (hmode : t.mode = .byte index)
    (v : Value) (description : String) :
    t.Asks v description [(Statement.setByte (KeyPath.toDrive t.keyPath) t.commandName index
      (Literal.byte v).1 description).invocation] := by
  have hname := ht.valueName_eq (by rw [hmode]; nofun)
  unfold Asks
  rw [hmode]
  refine ⟨_, rfl, addresses_command _ _ _ (by simp), ?_, ?_, ?_⟩
  · rw [hname]
    exact text?_command (by decide) rfl
  · exact number?_of_natural (source?_command (by decide) rfl)
  · rw [byte?, Statement.invocation, source?_command (by decide) rfl, Option.bind_some]
    exact Literal.unhex?_byte v

theorem asks_of_statements {t : Target} {v : Value} {description : String}
    {commands : List Statement} (ht : t.WellFormed)
    (h : t.statements v description = .ok commands) :
    t.Asks v description (commands.map Statement.invocation) := by
  unfold statements statementsAt at h
  cases hmode : t.mode with
  | bit index mask =>
    rw [hmode] at h
    obtain ⟨_, -, h⟩ := Except.exists_of_bind_ok h
    cases h
    exact asks_of_bit ht hmode v description
  | byte index =>
    rw [hmode] at h
    obtain ⟨_, -, h⟩ := Except.exists_of_bind_ok h
    cases h
    exact asks_of_byte ht hmode v description
  | subkey =>
    rw [hmode] at h
    cases h
    unfold Asks
    rw [hmode]
    dsimp only
    split
    · exact ⟨_, rfl, addresses_command _ _ _ (by simp)⟩
    split
    · refine ⟨_, _, rfl, addresses_command _ _ _ (by simp), addresses_command _ _ _ (by simp),
        ?_, ?_, ?_⟩
      · exact text?_command (by decide) rfl
      · exact text?_command (by decide) (congrArg some (ValueKind.quote_typeName .string))
      · exact source?_command (by decide) rfl
    · exact ⟨_, rfl, addresses_command _ _ _ (by simp)⟩
  | plain =>
    have hname := ht.valueName_eq (by rw [hmode]; nofun)
    unfold Asks
    rw [hmode] at h ⊢
    dsimp only at h ⊢
    split at h
    · rename_i hnull
      cases h
      rw [if_pos hnull]
      refine ⟨_, rfl, addresses_command _ _ _ (by simp), ?_⟩
      rw [hname]
      exact text?_command (by decide) rfl
    rename_i hnull
    rw [if_neg hnull]
    split at h
    · rename_i hempty
      cases h
      simp only [hempty, if_true]
      refine ⟨_, rfl, addresses_command _ _ _ (by simp), ?_, ?_, ?_⟩
      · rw [hname]
        exact text?_command (by decide) rfl
      · exact text?_command (by decide) (congrArg some (ValueKind.quote_typeName .string))
      · exact source?_command (by decide) rfl
    · rename_i hempty
      obtain ⟨literal, hliteral, h⟩ := Except.exists_of_bind_ok h
      cases h
      simp only [hempty, Bool.false_eq_true, if_false]
      refine ⟨_, rfl, addresses_command _ _ _ (by simp), ?_, ?_, literal, hliteral, ?_⟩
      · rw [hname]
        exact text?_command (by decide) rfl
      · exact text?_command (by decide) (congrArg some t.kind.quote_typeName)
      · exact source?_command (by decide) rfl

end Target

/-- **Registry commands are read back as what was asked for**: each line that is written for a
target of a document gives a call, and the calls say what they have to. -/
theorem draftAssignment_reads_back {doc : Value} {place : String} {t : Target}
    (ht : Target.ofValue doc place = .ok t) {v : Value} {description : String}
    (h : (draftAssignment description ⟨t, v⟩).outcome = .ok ()) (level : Int) :
    ∃ calls, t.Asks v description calls ∧
      (Step.allLines level (Block.allSteps (draftAssignment description ⟨t, v⟩).items)).map
        (fun l => Invocation.read? l.text) = calls.map some := by
  obtain ⟨_, ⟨commands, hc, rfl⟩, heq⟩ := draftAssignment_of_ok h
  have hdelimited := Target.delimited_of_statements hc
  refine ⟨commands.map Statement.invocation,
    Target.asks_of_statements (Target.wellFormed_of_ofValue ht) hc, ?_⟩
  rw [heq, Step.allLines_eq_flatMap]
  simp only [Block.allSteps, Block.steps, List.flatMap_cons, List.flatMap_nil, List.append_nil,
    List.flatMap_map, List.map_flatMap, List.map_map, Step.lines, List.map_cons, List.map_nil]
  rw [← List.map_eq_flatMap]
  refine List.map_congr_left fun s hs => ?_
  rw [s.text_eq, read?_text (Statement.isReadable_invocation (hdelimited s hs))]
  rfl

/-- A document of a target whose texts imitate quotes and parameters. -/
def imitatingDocument : Value :=
  .map [(.str "key_path", .str "hklm\\it's -Name 'x"), (.str "value_name", .str "' -Value ''"),
    (.str "value_kind", .str "MultiString")]

/-- The target of the document. -/
def imitatingTarget : Target :=
  ⟨"hklm\\it's -Name 'x", some "' -Value ''", .multiString, .null, .null, .plain⟩

/-- Texts that imitate the end of an array, a parameter and the end of a line. -/
def imitatingValue : Value := .list [.str "a') -Type 'DWord'", .str "-Name\n"]

theorem draftAssignment_reads_back_imitating :
    ∃ calls, imitatingTarget.Asks imitatingValue "'' -Path b" calls ∧
      (Step.allLines 2 (Block.allSteps (draftAssignment "'' -Path b"
        ⟨imitatingTarget, imitatingValue⟩).items)).map
        (fun l => Invocation.read? l.text) = calls.map some := by
  have hread : Target.ofValue imitatingDocument "" = .ok imitatingTarget := rfl
  have hdraft : (draftAssignment "'' -Path b" ⟨imitatingTarget, imitatingValue⟩).outcome = .ok () :=
    rfl
  exact draftAssignment_reads_back hread hdraft 2

end Provision
