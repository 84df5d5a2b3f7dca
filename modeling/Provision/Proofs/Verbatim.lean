import Mathlib
import Provision.Registry.Literal

/-!
# Literals under all marks that count as a quote

The host of the script takes five characters for a single quote: the straight one and four
typographic ones. A literal that one of them opens ends at the first that no other one follows, and
two in a row inside it denote one.

* `Verbatim.isMark`: the characters that count as a single quote.
* `Verbatim.read?`: reads a literal, with the text that it denotes and what follows it.
* `Verbatim.length_of_inside?`: a literal that is read to the end is as long as its text and the
  marks in it let it be.
* **`Literal.verbatim_quote_iff`**: the literal of a text is read as that text, with nothing left
  over, exactly if the text has no typographic quote.
-/

namespace Provision

namespace Verbatim

/-- The typographic quotes: two left and two right, high and low. -/
def isTypographic (c : Char) : Bool :=
  c = '\u2018' || c = '\u2019' || c = '\u201A' || c = '\u201B'

/-- The characters that count as a single quote. -/
def isMark (c : Char) : Bool := c = '\'' || isTypographic c

/-- Reads the inside of a literal up to the mark that closes it: the text that it denotes, and what
follows. Of two marks in a row the second one is denoted. -/
def inside? : List Char → Option (List Char × List Char)
  | [] => none
  | [c] => if isMark c then some ([], []) else none
  | c :: d :: cs =>
    if isMark c then
      if isMark d then (inside? cs).map fun r => (d :: r.1, r.2) else some ([], d :: cs)
    else (inside? (d :: cs)).map fun r => (c :: r.1, r.2)

/-- Reads a literal. -/
def read? : List Char → Option (List Char × List Char)
  | [] => none
  | c :: cs => if isMark c then inside? cs else none

/-! ## What stands between the marks -/

theorem inside?_cons_of_not_isMark {c : Char} (hc : isMark c = false) (cs : List Char) :
    inside? (c :: cs) = (inside? cs).map fun r => (c :: r.1, r.2) := by
  cases cs with
  | nil => simp [inside?, hc]
  | cons d cs => rw [inside?, hc, if_neg Bool.false_ne_true]

theorem inside?_cons_cons {c d : Char} (hc : isMark c = true) (hd : isMark d = true)
    (cs : List Char) : inside? (c :: d :: cs) = (inside? cs).map fun r => (d :: r.1, r.2) := by
  rw [inside?, if_pos hc, if_pos hd]

theorem inside?_close {c : Char} (hc : isMark c = true) {rest : List Char}
    (hrest : ∀ d ∈ rest.head?, isMark d = false) : inside? (c :: rest) = some ([], rest) := by
  cases rest with
  | nil => rw [inside?, if_pos hc]
  | cons d rest =>
    have hd : isMark d = false := hrest d rfl
    rw [inside?, if_pos hc, hd, if_neg Bool.false_ne_true]

/-- A text without typographic quotes is read back, whatever follows that is no mark. -/
theorem inside?_escapeChars {cs rest : List Char} (hcs : ∀ c ∈ cs, isTypographic c = false)
    (hrest : ∀ d ∈ rest.head?, isMark d = false) :
    inside? (Literal.escapeChars cs ++ '\'' :: rest) = some (cs, rest) := by
  have hquote : isMark '\'' = true := rfl
  induction cs with
  | nil => exact inside?_close hquote hrest
  | cons c cs ih =>
    obtain ⟨hc, hcs⟩ := List.forall_mem_cons.mp hcs
    rw [Literal.escapeChars_cons]
    by_cases heq : c = '\''
    · rw [if_pos heq, heq]
      change inside? ('\'' :: '\'' :: (Literal.escapeChars cs ++ '\'' :: rest)) = _
      rw [inside?_cons_cons hquote hquote, ih hcs, Option.map_some]
    · have hmark : isMark c = false := by simp [isMark, heq, hc]
      rw [if_neg heq]
      change inside? (c :: (Literal.escapeChars cs ++ '\'' :: rest)) = _
      rw [inside?_cons_of_not_isMark hmark, ih hcs, Option.map_some]

/-- **What is read to the end**: all but the closing one of the marks in it are in pairs, and each
pair denotes one character. -/
theorem length_of_inside? {cs text : List Char} (h : inside? cs = some (text, [])) :
    2 * cs.length = 2 * text.length + cs.countP isMark + 1 := by
  fun_induction inside? cs generalizing text with
  | case1 => cases h
  | case2 c hc =>
    cases h
    simp [hc]
  | case3 c hc => cases h
  | case4 c d cs hc hd ih =>
    obtain ⟨r, hr, heq⟩ := Option.map_eq_some_iff.mp h
    obtain ⟨rfl, hrest⟩ := Prod.mk.inj heq
    have hcs := ih (hr.trans (congrArg (fun rest => some (r.1, rest)) hrest))
    rw [List.countP_cons_of_pos hc, List.countP_cons_of_pos hd]
    simp only [List.length_cons]
    omega
  | case5 c d cs hc hd => cases h
  | case6 c d cs hc ih =>
    obtain ⟨r, hr, heq⟩ := Option.map_eq_some_iff.mp h
    obtain ⟨rfl, hrest⟩ := Prod.mk.inj heq
    have hcs := ih (hr.trans (congrArg (fun rest => some (r.1, rest)) hrest))
    rw [List.countP_cons_of_neg hc]
    simp only [List.length_cons] at hcs ⊢
    omega

/-! ## How many marks there are -/

theorem length_escapeChars (cs : List Char) :
    (Literal.escapeChars cs).length = cs.length + cs.count '\'' := by
  induction cs with
  | nil => rfl
  | cons c cs ih =>
    rw [Literal.escapeChars_cons, List.length_append, ih,
      List.count_cons, List.length_cons]
    by_cases hc : c = '\''
    · simp [hc]
      omega
    · simp [hc]
      omega

theorem countP_escapeChars (cs : List Char) :
    (Literal.escapeChars cs).countP isMark = 2 * cs.count '\'' + cs.countP isTypographic := by
  induction cs with
  | nil => rfl
  | cons c cs ih =>
    rw [Literal.escapeChars_cons, List.countP_append, ih,
      List.count_cons, List.countP_cons]
    by_cases hc : c = '\''
    · subst hc
      simp [isMark, isTypographic]
      omega
    · simp [hc, isMark]
      omega

end Verbatim

/-- **The literal of a text is read as that text**, with nothing left over, exactly if the text has
no typographic quote. -/
theorem Literal.verbatim_quote_iff (s : String) :
    Verbatim.read? (quote s).toList = some (s.toList, []) ↔
      ∀ c ∈ s.toList, Verbatim.isTypographic c = false := by
  have hread : Verbatim.read? (quote s).toList =
      Verbatim.inside? (escapeChars s.toList ++ ['\'']) := by
    simp [quote, escape, Verbatim.read?, Verbatim.isMark]
  rw [hread]
  constructor
  · intro h
    have hlength := Verbatim.length_of_inside? h
    rw [List.length_append, Verbatim.length_escapeChars, List.countP_append,
      Verbatim.countP_escapeChars] at hlength
    have hnone : s.toList.countP Verbatim.isTypographic = 0 := by
      have hclose : List.countP Verbatim.isMark ['\''] = 1 := rfl
      rw [hclose, List.length_singleton] at hlength
      omega
    simpa using List.countP_eq_zero.mp hnone
  · intro h
    refine Verbatim.inside?_escapeChars h fun d hd => ?_
    cases hd

/-- **A typographic apostrophe ends the literal**, and what follows it is left over. -/
theorem Literal.not_verbatim_apostrophe :
    Verbatim.read? (quote "it\u2019s").toList = some ("it".toList, "s'".toList) ∧
      ¬ Verbatim.read? (quote "it\u2019s").toList = some ("it\u2019s".toList, []) := by
  have hread : Verbatim.read? (quote "it\u2019s").toList = some ("it".toList, "s'".toList) := by
    decide +kernel
  refine ⟨hread, ?_⟩
  rw [hread]
  decide

end Provision
