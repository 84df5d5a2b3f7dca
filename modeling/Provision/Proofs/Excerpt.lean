import Mathlib
import Provision.Proofs.Gates
import Provision.Proofs.Nesting
import Provision.Proofs.ReadBack

/-!
# Reading what a script embeds

* `Step.written`: the characters of the lines that steps write.
* `Excerpt.afterLine?`: what follows the first line with a given text.
* `Excerpt.hereString?`: the here-string that is assigned to a variable.
* `Excerpt.items?`: the items between the brackets of a list.
* **`Excerpt.hereText?_iff`**: a content is read back from its here-string if and only if none of
  its lines begins with the mark that ends here-strings.
* `Excerpt.IsFree`: texts with no such line, whatever character ends lines.
-/

namespace Provision

/-! ## Cutting into lines -/

namespace Text

variable {d : Char}

theorem splitChars_ne_nil (d : Char) (cs : List Char) : splitChars d cs ≠ [] := by
  cases cs with
  | nil => simp [splitChars]
  | cons c cs =>
    rw [splitChars]
    split
    · exact List.cons_ne_nil _ _
    · split <;> exact List.cons_ne_nil _ _

theorem splitChars_cons_of_ne {c : Char} (h : c ≠ d) {cs piece : List Char}
    {pieces : List (List Char)} (hcs : splitChars d cs = piece :: pieces) :
    splitChars d (c :: cs) = (c :: piece) :: pieces := by
  rw [splitChars, if_neg h, hcs]

theorem splitChars_append_cons (xs ys : List Char) :
    splitChars d (xs ++ d :: ys) = splitChars d xs ++ splitChars d ys := by
  induction xs with
  | nil => simp [splitChars]
  | cons x xs ih =>
    by_cases h : x = d
    · rw [h, List.cons_append, splitChars, splitChars, if_pos rfl, if_pos rfl, ih]
      rfl
    · obtain ⟨piece, pieces, hxs⟩ := List.exists_cons_of_ne_nil (splitChars_ne_nil d xs)
      have hall : splitChars d (xs ++ d :: ys) = piece :: (pieces ++ splitChars d ys) := by
        rw [ih, hxs, List.cons_append]
      rw [List.cons_append, splitChars_cons_of_ne h hall, splitChars_cons_of_ne h hxs]
      rfl

theorem splitChars_of_not_mem {cs : List Char} (h : d ∉ cs) : splitChars d cs = [cs] := by
  induction cs with
  | nil => rfl
  | cons c cs ih =>
    have hc : c ≠ d := fun heq => h (heq ▸ List.mem_cons_self)
    have hcs : d ∉ cs := fun hmem => h (List.mem_cons_of_mem c hmem)
    exact splitChars_cons_of_ne hc (ih hcs)

theorem not_mem_of_mem_splitChars {cs piece : List Char} (h : piece ∈ splitChars d cs) :
    d ∉ piece := by
  induction cs generalizing piece with
  | nil =>
    rw [List.mem_singleton.mp h]
    exact List.not_mem_nil
  | cons c cs ih =>
    by_cases hc : c = d
    · rw [splitChars, if_pos hc] at h
      rcases List.mem_cons.mp h with rfl | h
      · exact List.not_mem_nil
      · exact ih h
    · obtain ⟨first, pieces, hcs⟩ := List.exists_cons_of_ne_nil (splitChars_ne_nil d cs)
      rw [splitChars_cons_of_ne hc hcs] at h
      rcases List.mem_cons.mp h with rfl | h
      · have hfirst : d ∉ first := ih (hcs ▸ List.mem_cons_self)
        intro hmem
        rcases List.mem_cons.mp hmem with heq | hmem
        · exact hc heq.symm
        · exact hfirst hmem
      · exact ih (hcs ▸ List.mem_cons_of_mem first h)

theorem intercalate_splitChars (cs : List Char) : [d].intercalate (splitChars d cs) = cs := by
  induction cs with
  | nil => rfl
  | cons c cs ih =>
    obtain ⟨piece, pieces, hcs⟩ := List.exists_cons_of_ne_nil (splitChars_ne_nil d cs)
    rw [hcs] at ih
    by_cases h : c = d
    · rw [splitChars, if_pos h, hcs, List.intercalate_cons_cons, ih, h]
      rfl
    · rw [splitChars_cons_of_ne h hcs]
      cases pieces with
      | nil => simpa using ih
      | cons next pieces =>
        rw [List.intercalate_cons_cons] at ih ⊢
        rw [List.cons_append, List.cons_append, ih]

theorem splitChars_intercalate {pieces : List (List Char)} (hne : pieces ≠ [])
    (h : ∀ piece ∈ pieces, d ∉ piece) : splitChars d ([d].intercalate pieces) = pieces := by
  induction pieces with
  | nil => exact absurd rfl hne
  | cons piece pieces ih =>
    obtain ⟨hpiece, hpieces⟩ := List.forall_mem_cons.mp h
    cases pieces with
    | nil => simpa using splitChars_of_not_mem hpiece
    | cons next pieces =>
      have hrest := ih (List.cons_ne_nil next pieces) hpieces
      rw [List.intercalate_cons_cons, List.append_assoc, List.singleton_append,
        splitChars_append_cons, splitChars_of_not_mem hpiece, hrest]
      rfl

end Text

/-! ## What steps write -/

namespace Step

/-- The characters of lines, each with its end. -/
def charsOf (ls : List Line) : List Char := ls.flatMap fun l => l.text.toList ++ ['\n']

/-- The characters that steps write at a level. -/
def written (level : Int) (steps : List Step) : List Char := charsOf (allLines level steps)

theorem charsOf_append (ls more : List Line) : charsOf (ls ++ more) = charsOf ls ++ charsOf more :=
  List.flatMap_append

theorem charsOf_cons (l : Line) (ls : List Line) :
    charsOf (l :: ls) = l.text.toList ++ '\n' :: charsOf ls := by
  rw [charsOf, List.flatMap_cons, ← charsOf, List.append_assoc]
  rfl

theorem toList_textOf {ls : List Line} (h : ls ≠ []) : (textOf ls).toList = charsOf ls := by
  rw [textOf, Text.join, String.toList_append]
  induction ls with
  | nil => exact absurd rfl h
  | cons l ls ih =>
    cases ls with
    | nil => simp [charsOf]
    | cons next ls =>
      have hrest := ih (List.cons_ne_nil next ls)
      rw [List.map_cons, List.map_cons, String.intercalate_cons_cons, charsOf_cons, ← hrest]
      simp

theorem allStayRight_map_line (texts : List String) :
    allStayRight (texts.map line) = true := by
  induction texts with
  | nil => rfl
  | cons text texts ih => exact ih

/-- The text of some steps stands in a script in one piece. -/
def StandIn (steps : List Step) (script : String) : Prop :=
  ∃ level, 0 ≤ level ∧ ∃ before after,
    script.toList = before ++ (written level steps ++ after)

/-- **What stands inside the steps of a script** is a piece of its text. -/
theorem standIn_of_inside {inner outer : List Step} (h : Inside inner outer)
    (hinner : allStayRight inner = true) : StandIn inner (render outer) := by
  obtain ⟨deeper, hdeeper, before, after, heq⟩ := exists_allLines_of_inside h hinner le_rfl
  refine ⟨deeper, hdeeper, ?_⟩
  by_cases hnil : allLines 0 outer = []
  · -- A script without lines is a line feed alone.
    obtain ⟨-, hlines, -⟩ : before = [] ∧ allLines deeper inner = [] ∧ after = [] := by
      simpa [hnil] using heq
    refine ⟨[], ['\n'], ?_⟩
    rw [render, hnil, written, hlines]
    rfl
  · refine ⟨charsOf before, charsOf after, ?_⟩
    rw [render, toList_textOf hnil, heq, charsOf_append, charsOf_append, List.append_assoc]
    rfl

end Step

namespace Excerpt

open Text

/-! ## Finding a line -/

/-- The lines behind the first one that is `line`, whatever blanks stand in front of it. -/
def rowsAfter? (line : List Char) : List (List Char) → Option (List (List Char))
  | [] => none
  | row :: rows => if row.dropWhile (· = ' ') = line then some rows else rowsAfter? line rows

/-- What follows the first line that is `line`, whatever blanks stand in front of it. -/
def afterLine? (line : List Char) (cs : List Char) : Option (List Char) :=
  (rowsAfter? line (splitChars '\n' cs)).map (['\n'].intercalate ·)

theorem afterLine?_row {line row : List Char} (hrow : '\n' ∉ row) (rest : List Char) :
    afterLine? line (row ++ '\n' :: rest) =
      if row.dropWhile (· = ' ') = line then some rest else afterLine? line rest := by
  rw [afterLine?, splitChars_append_cons, splitChars_of_not_mem hrow, List.singleton_append,
    rowsAfter?]
  split
  · rw [Option.map_some, intercalate_splitChars]
  · rfl

theorem not_mem_plain {text : String} (h : '\n' ∉ text.toList) (level : Int) :
    '\n' ∉ (Line.plain level text).text.toList := by
  by_cases hempty : text = ""
  · simp [hempty]
  · have hmargin : '\n' ∉ (Line.margin level).toList := by
      simp [Line.margin, String.toList_join, Line.unit]
    simp only [Line.plain, if_neg hempty, String.toList_append, List.mem_append, not_or]
    exact ⟨hmargin, h⟩

theorem afterLine?_plain {line : List Char} {text : String} (h : '\n' ∉ text.toList) (level : Int)
    (ls : List Line) (rest : List Char) :
    afterLine? line (Step.charsOf (Line.plain level text :: ls) ++ rest) =
      if text.toList.dropWhile (· = ' ') = line then some (Step.charsOf ls ++ rest)
      else afterLine? line (Step.charsOf ls ++ rest) := by
  rw [Step.charsOf_cons, List.append_assoc, List.cons_append,
    afterLine?_row (not_mem_plain h level), Line.dropWhile_plain]

/-- A line that begins as a variable is found where it stands. -/
theorem afterLine?_self {text : String} (hhead : text.toList.head? = some '$')
    (htext : '\n' ∉ text.toList) (level : Int) (ls : List Line) (rest : List Char) :
    afterLine? text.toList (Step.charsOf (Line.plain level text :: ls) ++ rest) =
      some (Step.charsOf ls ++ rest) := by
  have hdrop : text.toList.dropWhile (· = ' ') = text.toList := by
    obtain ⟨more, hmore⟩ := List.head?_eq_some_iff.mp hhead
    rw [hmore, List.dropWhile_cons_of_neg (by decide)]
  rw [afterLine?_plain htext, if_pos hdrop]

/-- A line that does not begin as a variable is none of those that are looked for. -/
theorem afterLine?_of_head_ne {line : List Char} (hline : line.head? = some '$') {text : String}
    (htext : '\n' ∉ text.toList) (hhead : (text.toList.dropWhile (· = ' ')).head? ≠ some '$')
    (level : Int) (ls : List Line) (rest : List Char) :
    afterLine? line (Step.charsOf (Line.plain level text :: ls) ++ rest) =
      afterLine? line (Step.charsOf ls ++ rest) := by
  have hne : text.toList.dropWhile (· = ' ') ≠ line := by
    intro heq
    rw [heq] at hhead
    exact hhead hline
  rw [afterLine?_plain htext, if_neg hne]

theorem afterLine?_banner {line : List Char} (hline : line.head? = some '$') {title : String}
    (htitle : '\n' ∉ title.toList) (level : Int) (ls : List Line) (rest : List Char) :
    afterLine? line (Step.charsOf (Step.lines level (.banner title) ++ ls) ++ rest) =
      afterLine? line (Step.charsOf ls ++ rest) := by
  have hsigns : '\n' ∉ List.replicate 76 '=' := fun hmem =>
    absurd (List.eq_of_mem_replicate hmem) (by decide)
  have hhash : "# ".toList = ['#', ' '] := rfl
  have hrule : '\n' ∉ Step.rule.toList := by
    rw [Step.rule, String.toList_append, List.mem_append, not_or]
    exact ⟨by decide, by rwa [String.toList_ofList]⟩
  have hrule' : (Step.rule.toList.dropWhile (· = ' ')).head? ≠ some '$' := by
    rw [Step.rule, String.toList_append, hhash, List.cons_append,
      List.dropWhile_cons_of_neg (by decide)]
    exact fun heq => absurd (Option.some.inj heq) (by decide)
  have htext : '\n' ∉ ("# " ++ title).toList := by simp [htitle]
  have htext' : (("# " ++ title).toList.dropWhile (· = ' ')).head? ≠ some '$' := by simp
  have hblank : '\n' ∉ "".toList := by decide
  have hblank' : ("".toList.dropWhile (· = ' ')).head? ≠ some '$' := by decide
  rw [Step.lines, ← Line.plain_empty level]
  simp only [List.cons_append, List.nil_append]
  rw [afterLine?_of_head_ne hline hblank hblank', afterLine?_of_head_ne hline hrule hrule',
    afterLine?_of_head_ne hline htext htext', afterLine?_of_head_ne hline hrule hrule',
    afterLine?_of_head_ne hline hblank hblank']

/-! ## Here-strings -/

/-- Whether a line ends a here-string. -/
def isMark (row : List Char) : Bool := startsWith ['\'', '@'] row

/-- No line of a text ends a here-string. -/
def HasNoMark (cs : List Char) : Prop := ∀ row ∈ splitChars '\n' cs, isMark row = false

/-- Reads the content of a here-string: the lines up to the first that ends it. -/
def hereText? (cs : List Char) : Option (List Char) :=
  let rows := splitChars '\n' cs
  if rows.any isMark then some (['\n'].intercalate (rows.takeWhile fun row => !isMark row))
  else none

/-- Reads the here-string that is assigned to a variable. -/
def hereString? (name : String) (cs : List Char) : Option (List Char) :=
  (afterLine? (name ++ " = @'").toList cs).bind hereText?

theorem charsOf_rawLines (text : String) :
    Step.charsOf (Step.rawLines text) = text.toList ++ ['\n'] := by
  have hpieces : ∀ pieces : List (List Char), pieces ≠ [] →
      pieces.flatMap (fun piece => piece ++ ['\n']) = ['\n'].intercalate pieces ++ ['\n'] := by
    intro pieces hne
    induction pieces with
    | nil => exact absurd rfl hne
    | cons piece pieces ih =>
      cases pieces with
      | nil => simp
      | cons next pieces =>
        rw [List.flatMap_cons, ih (List.cons_ne_nil next pieces), List.intercalate_cons_cons]
        simp only [List.append_assoc]
  have hjoin := hpieces _ (splitChars_ne_nil '\n' text.toList)
  rw [intercalate_splitChars] at hjoin
  rw [← hjoin, Step.charsOf, Step.rawLines, splitAtChar, List.map_map, List.flatMap_map]
  simp

/-- **A content is read back from its here-string** if and only if none of its lines ends one. -/
theorem hereText?_iff (content rest : List Char) :
    hereText? (content ++ '\n' :: '\'' :: '@' :: '\n' :: rest) = some content ↔
      HasNoMark content := by
  have hmark : splitChars '\n' ('\'' :: '@' :: '\n' :: rest) =
      ['\'', '@'] :: splitChars '\n' rest := by
    rw [show '\'' :: '@' :: '\n' :: rest = ['\'', '@'] ++ '\n' :: rest from rfl,
      splitChars_append_cons]
    rfl
  have hrows : (splitChars '\n' content ++ ['\'', '@'] :: splitChars '\n' rest).takeWhile
      (fun row => !isMark row) = (splitChars '\n' content).takeWhile fun row => !isMark row := by
    rw [List.takeWhile_append]
    split
    · rename_i hall
      rw [List.takeWhile_cons_of_neg (by decide), List.append_nil,
        (List.takeWhile_sublist _).eq_of_length hall]
    · rfl
  have hany :
      (splitChars '\n' content ++ ['\'', '@'] :: splitChars '\n' rest).any isMark = true := by
    rw [List.any_append, List.any_cons, show isMark ['\'', '@'] = true from rfl]
    simp
  rw [hereText?, splitChars_append_cons, hmark]
  simp only [hany, if_true, hrows, Option.some.injEq]
  constructor
  · intro heq row hrow
    -- The lines that are read are recovered from their text, and so are all lines of the content.
    have hkept : ∀ kept : List (List Char), kept ≠ [] →
        (∀ piece ∈ kept, '\n' ∉ piece) → ['\n'].intercalate kept = content →
        kept = splitChars '\n' content := by
      intro kept hne hpieces hcontent
      rw [← hcontent, splitChars_intercalate hne hpieces]
    by_cases hnil : (splitChars '\n' content).takeWhile (fun row => !isMark row) = []
    · -- An empty content has one line, which is no mark.
      rw [hnil] at heq
      obtain rfl : content = [] := heq.symm
      rw [List.mem_singleton.mp hrow]
      rfl
    · have hpieces : ∀ piece ∈ (splitChars '\n' content).takeWhile (fun row => !isMark row),
          '\n' ∉ piece := fun piece hpiece =>
        not_mem_of_mem_splitChars ((List.takeWhile_sublist _).subset hpiece)
      have hall := hkept _ hnil hpieces heq
      rw [← hall] at hrow
      simpa using List.mem_takeWhile_imp hrow
  · intro hall
    have htake : (splitChars '\n' content).takeWhile (fun row => !isMark row) =
        splitChars '\n' content :=
      List.takeWhile_eq_self_iff.mpr fun row hrow => by rw [hall row hrow]; rfl
    rw [htake, intercalate_splitChars]

/-- The name of a variable, all on one line. -/
def IsVariable (name : String) : Prop := name.toList.head? = some '$' ∧ '\n' ∉ name.toList

theorem head?_assignment {name : String} (h : IsVariable name) :
    (name ++ " = @'").toList.head? = some '$' := by
  rw [String.toList_append, List.head?_append, h.1]
  rfl

/-- The text of a here-string is read back from its lines if and only if no line of it is a mark. -/
theorem hereString?_iff {name : String} (hname : IsVariable name) (level : Int) (content : String)
    (ls : List Line) (rest : List Char) :
    hereString? name
        (Step.charsOf (Step.lines level (.hereString name content) ++ ls) ++ rest) =
      some (Step.dropLineFeeds content).toList ↔
      HasNoMark (Step.dropLineFeeds content).toList := by
  have hline : '\n' ∉ (name ++ " = @'").toList := by
    rw [String.toList_append, List.mem_append, not_or]
    exact ⟨hname.2, by decide⟩
  have hmark : Step.charsOf (Step.rawLines "'@") = ['\'', '@', '\n'] := by
    rw [charsOf_rawLines]
    rfl
  rw [Step.lines, List.cons_append, List.cons_append, hereString?,
    afterLine?_self (head?_assignment hname) hline, Option.bind_some, Step.charsOf_append,
    Step.charsOf_append, charsOf_rawLines, hmark]
  have hbody : (Step.dropLineFeeds content).toList ++ ['\n'] ++ ['\'', '@', '\n'] ++
      Step.charsOf ls ++ rest =
        (Step.dropLineFeeds content).toList ++
          '\n' :: '\'' :: '@' :: '\n' :: (Step.charsOf ls ++ rest) := by
    simp
  rw [hbody, hereText?_iff]

/-! ## Texts without a mark at the beginning of a line -/

/-- No line begins with the mark that ends here-strings, whatever character ends the line before;
`fresh` says whether the text itself begins a line. -/
def isFree (fresh : Bool) : List Char → Bool
  | [] => true
  | c :: cs => !(fresh && isMark (c :: cs)) && isFree (isLineEnd c) cs

theorem isMark_cons_of_ne {c : Char} (h : c ≠ '\'') (cs : List Char) :
    isMark (c :: cs) = false := by
  simp [isMark, startsWith, List.isPrefixOf, Ne.symm h]

theorem isMark_append_line (xs ys : List Char) :
    isMark (xs ++ '\n' :: ys) = isMark (xs ++ ['\n']) := by
  cases xs with
  | nil => rfl
  | cons x xs =>
    cases xs with
    | nil => simp [isMark, startsWith, List.isPrefixOf]
    | cons x' xs => simp [isMark, startsWith, List.isPrefixOf]

theorem isFree_append_line (fresh : Bool) (xs ys : List Char) :
    isFree fresh (xs ++ '\n' :: ys) = (isFree fresh (xs ++ ['\n']) && isFree true ys) := by
  induction xs generalizing fresh with
  | nil =>
    have hend : isLineEnd '\n' = true := by decide
    simp [isFree, isMark_cons_of_ne, hend]
  | cons x xs ih =>
    have hmark := isMark_append_line (x :: xs) ys
    rw [List.cons_append, List.cons_append] at hmark
    rw [List.cons_append, List.cons_append, isFree, isFree, hmark, ih, Bool.and_assoc]

theorem isFree_charsOf {ls : List Line}
    (h : ∀ l ∈ ls, isFree true (l.text.toList ++ ['\n']) = true) :
    isFree true (Step.charsOf ls) = true := by
  induction ls with
  | nil => rfl
  | cons l ls ih =>
    obtain ⟨hl, hls⟩ := List.forall_mem_cons.mp h
    rw [Step.charsOf_cons, isFree_append_line, hl, ih hls]
    rfl

theorem isFree_of_isMark {cs : List Char} (hline : ∀ c ∈ cs, isLineEnd c = false)
    (hmark : isMark (cs ++ ['\n']) = false) : isFree true (cs ++ ['\n']) = true := by
  have hrest : ∀ cs : List Char, (∀ c ∈ cs, isLineEnd c = false) →
      isFree false (cs ++ ['\n']) = true := by
    intro cs hcs
    induction cs with
    | nil => rfl
    | cons c cs ih =>
      obtain ⟨hc, hcs⟩ := List.forall_mem_cons.mp hcs
      rw [List.cons_append, isFree, hc, ih hcs]
      rfl
  cases cs with
  | nil => rfl
  | cons c cs =>
    obtain ⟨hc, hcs⟩ := List.forall_mem_cons.mp hline
    rw [List.cons_append] at hmark ⊢
    rw [isFree, hmark, hc, hrest cs hcs]
    rfl

/-- **Doubled quotes keep every line free**: behind a line break that stands in a literal, a quote
is followed by another one or by the end of the line. -/
theorem isFree_escapeChars (fresh : Bool) (cs : List Char) :
    isFree fresh (Literal.escapeChars cs ++ ['\'', '\n']) = true := by
  induction cs generalizing fresh with
  | nil => cases fresh <;> rfl
  | cons c cs ih =>
    rw [Literal.escapeChars_cons]
    by_cases h : c = '\''
    · have hend : isLineEnd '\'' = false := by decide
      rw [if_pos h, h]
      simp [isFree, isMark, startsWith, List.isPrefixOf, hend, ih]
    · rw [if_neg h, List.singleton_append, List.cons_append, isFree, isMark_cons_of_ne h,
        Bool.and_false, ih]
      rfl

/-- **No line of a free text ends a here-string**, at whatever character lines are cut. -/
theorem isMark_of_isFree {d : Char} (hd : isLineEnd d = true) {cs : List Char}
    (h : isFree true cs = true) : ∀ row ∈ splitChars d cs, isMark row = false := by
  -- By induction on the text: the first piece may begin in the middle of a line, the others not.
  have hfresh : ∀ (cs : List Char) (fresh : Bool) (row : List Char) (rows : List (List Char)),
      isFree fresh cs = true → splitChars d cs = row :: rows →
      (fresh = true → isMark row = false) ∧ ∀ more ∈ rows, isMark more = false := by
    intro cs
    induction cs with
    | nil =>
      intro fresh row rows _ hrows
      obtain ⟨rfl, rfl⟩ := List.cons.inj hrows
      exact ⟨fun _ => rfl, fun more hmore => absurd hmore List.not_mem_nil⟩
    | cons c cs ih =>
      intro fresh row rows hfree hrows
      rw [isFree, Bool.and_eq_true] at hfree
      obtain ⟨hmark, hfree⟩ := hfree
      obtain ⟨first, pieces, hcs⟩ := List.exists_cons_of_ne_nil (splitChars_ne_nil d cs)
      obtain ⟨hfirst, hpieces⟩ := ih (isLineEnd c) first pieces hfree hcs
      by_cases hc : c = d
      · rw [splitChars, if_pos hc, hcs] at hrows
        obtain ⟨rfl, rfl⟩ := List.cons.inj hrows
        exact ⟨fun _ => rfl, List.forall_mem_cons.mpr ⟨hfirst (hc ▸ hd), hpieces⟩⟩
      · rw [splitChars_cons_of_ne hc hcs] at hrows
        obtain ⟨rfl, rfl⟩ := List.cons.inj hrows
        refine ⟨fun hfresh => ?_, hpieces⟩
        -- The first piece begins as the text does.
        have hstart : c :: first <+: c :: cs := by
          have hjoin := intercalate_splitChars (d := d) cs
          rw [hcs] at hjoin
          refine List.prefix_cons_inj c |>.mpr ?_
          rw [← hjoin]
          cases pieces with
          | nil => simp
          | cons next pieces =>
            rw [List.intercalate_cons_cons, List.append_assoc]
            exact List.prefix_append _ _
        rw [Bool.eq_false_iff]
        intro hrow
        have hwhole : isMark (c :: cs) = true :=
          startsWith_iff.mpr ((startsWith_iff.mp hrow).trans hstart)
        rw [hfresh, hwhole] at hmark
        exact absurd hmark (by decide)
  intro row hrow
  obtain ⟨first, pieces, hcs⟩ := List.exists_cons_of_ne_nil (splitChars_ne_nil d cs)
  obtain ⟨hfirst, hpieces⟩ := hfresh cs true first pieces h hcs
  rw [hcs] at hrow
  rcases List.mem_cons.mp hrow with rfl | hrow
  · exact hfirst rfl
  · exact hpieces row hrow

/-! ## Items between brackets -/

/-- What may stand in front of an item. -/
def isGap (c : Char) : Bool := c = ' ' || c = '\n'

/-- What stands behind an item: a comma, which another item has to follow, or the end of the
line. -/
def separator? : List Char → Option (Bool × List Char)
  | ',' :: cs => some (true, cs)
  | '\n' :: cs => some (false, cs)
  | _ => none

/-- Reads items up to the bracket that closes their list; `due` says whether one has to come. -/
def items? {α : Type} (item? : List Char → Option (α × List Char)) (due : Bool) (cs : List Char) :
    Option (List α × List Char) :=
  match cs.dropWhile isGap with
  | [] => none
  | ')' :: rest => if due then none else some ([], rest)
  | c :: more =>
    match item? (c :: more) with
    | none => none
    | some (a, rest) =>
      match separator? rest with
      | none => none
      | some (due, rest) =>
        if _ : rest.length < cs.length then (items? item? due rest).map fun r => (a :: r.1, r.2)
        else none
termination_by cs.length

section Items

variable {α : Type} {item? : List Char → Option (α × List Char)}

theorem isGap_margin (level : Int) : ∀ c ∈ (Line.margin level).toList, isGap c = true := by
  simp [Line.margin, String.toList_join, Line.unit, isGap]

theorem items?_close {gaps : List Char} (hgaps : ∀ c ∈ gaps, isGap c = true) (level : Int)
    (rest : List Char) :
    items? item? false (gaps ++ ((Line.plain level ")").text.toList ++ rest)) =
      some ([], rest) := by
  have hall : ∀ c ∈ gaps ++ (Line.margin level).toList, isGap c = true :=
    List.forall_mem_append.mpr ⟨hgaps, isGap_margin level⟩
  have hplain : gaps ++ ((Line.plain level ")").text.toList ++ rest) =
      (gaps ++ (Line.margin level).toList) ++ ')' :: rest := by
    simp [Line.plain]
  have hdrop : ((gaps ++ (Line.margin level).toList) ++ ')' :: rest).dropWhile isGap =
      ')' :: rest := by
    rw [List.dropWhile_append_of_pos hall, List.dropWhile_cons_of_neg (by decide)]
  rw [hplain, items?, hdrop]
  rfl

theorem items?_cons {gaps : List Char} (hgaps : ∀ c ∈ gaps, isGap c = true) {c : Char}
    (hc : isGap c = false ∧ c ≠ ')') (due : Bool) {cs : List Char} :
    items? item? due (gaps ++ c :: cs) =
      match item? (c :: cs) with
      | none => none
      | some (a, rest) =>
        match separator? rest with
        | none => none
        | some (due, rest) =>
          if rest.length < (gaps ++ c :: cs).length then
            (items? item? due rest).map fun r => (a :: r.1, r.2)
          else none := by
  have hdrop : (gaps ++ c :: cs).dropWhile isGap = c :: cs := by
    rw [List.dropWhile_append_of_pos hgaps, List.dropWhile_cons_of_neg (by simp [hc.1])]
  rw [items?, hdrop]
  split
  · rename_i heq
    cases heq
  · rename_i heq
    exact absurd (List.cons.inj heq).1 hc.2
  · rename_i heq
    obtain ⟨rfl, rfl⟩ := List.cons.inj heq
    rfl

theorem items?_plain {gaps : List Char} (hgaps : ∀ c ∈ gaps, isGap c = true) {text : String}
    {c : Char} (hhead : text.toList.head? = some c) (hc : isGap c = false ∧ c ≠ ')') (level : Int)
    (due : Bool) (cs : List Char) :
    items? item? due (gaps ++ ((Line.plain level text).text.toList ++ '\n' :: cs)) =
      match item? (text.toList ++ '\n' :: cs) with
      | none => none
      | some (a, rest) =>
        match separator? rest with
        | none => none
        | some (due, rest) =>
          if rest.length < (gaps ++ ((Line.plain level text).text.toList ++ '\n' :: cs)).length then
            (items? item? due rest).map fun r => (a :: r.1, r.2)
          else none := by
  obtain ⟨more, hmore⟩ := List.head?_eq_some_iff.mp hhead
  have hne : text ≠ "" := by
    rintro rfl
    cases hmore
  have hall : ∀ c ∈ gaps ++ (Line.margin level).toList, isGap c = true :=
    List.forall_mem_append.mpr ⟨hgaps, isGap_margin level⟩
  have hplain : gaps ++ ((Line.plain level text).text.toList ++ '\n' :: cs) =
      (gaps ++ (Line.margin level).toList) ++ c :: (more ++ '\n' :: cs) := by
    simp [Line.plain, hne, hmore]
  rw [hplain, items?_cons hall hc, hmore]
  rfl

/-- An item that is read from its line, with a separator behind it, is the first of the items. -/
theorem items?_of_item {gaps : List Char} (hgaps : ∀ c ∈ gaps, isGap c = true) {text : String}
    {c : Char} (hhead : text.toList.head? = some c) (hc : isGap c = false ∧ c ≠ ')')
    {cs rest rest' : List Char} {a : α} {due' : Bool}
    (hitem : item? (text.toList ++ '\n' :: cs) = some (a, rest))
    (hseparator : separator? rest = some (due', rest')) (hlength : rest'.length ≤ cs.length + 1)
    (level : Int) (due : Bool) :
    items? item? due (gaps ++ ((Line.plain level text).text.toList ++ '\n' :: cs)) =
      (items? item? due' rest').map fun r => (a :: r.1, r.2) := by
  have hplain : 0 < (Line.plain level text).text.toList.length := by
    have hne : text ≠ "" := by
      rintro rfl
      cases hhead
    have htext : 0 < text.toList.length :=
      List.length_pos_iff.mpr fun hnil => hne (String.toList_eq_nil_iff.mp hnil)
    rw [Line.plain, if_neg hne]
    simp only [String.toList_append, List.length_append]
    omega
  have hlt : rest'.length <
      (gaps ++ ((Line.plain level text).text.toList ++ '\n' :: cs)).length := by
    rw [List.length_append, List.length_append, List.length_cons]
    omega
  rw [items?_plain hgaps hhead hc, hitem]
  simp only [hseparator, if_pos hlt]

theorem exists_item_of_items? {gaps : List Char} (hgaps : ∀ c ∈ gaps, isGap c = true)
    {text : String} {c : Char} (hhead : text.toList.head? = some c)
    (hc : isGap c = false ∧ c ≠ ')') {level : Int} {due : Bool} {cs rest : List Char} {a : α}
    {as : List α}
    (h : items? item? due (gaps ++ ((Line.plain level text).text.toList ++ '\n' :: cs)) =
      some (a :: as, rest)) :
    ∃ rest', item? (text.toList ++ '\n' :: cs) = some (a, rest') := by
  rw [items?_plain hgaps hhead hc] at h
  split at h
  · cases h
  rename_i a' rest' hitem
  split at h
  · cases h
  split at h
  · obtain ⟨r, -, heq⟩ := Option.map_eq_some_iff.mp h
    have ha : a' = a := (List.cons.inj (Prod.mk.inj heq).1).1
    exact ⟨rest', by rw [hitem, ha]⟩
  · cases h

end Items

/-- Reads a text between quotes. -/
def literal? : List Char → Option (String × List Char)
  | '\'' :: cs => (Invocation.readQuoted cs).map fun r => (String.ofList r.1, r.2)
  | _ => none

theorem escapeChars_of_not_mem {cs : List Char} (h : '\'' ∉ cs) : Literal.escapeChars cs = cs := by
  induction cs with
  | nil => rfl
  | cons c cs ih =>
    rw [List.mem_cons, not_or] at h
    rw [Literal.escapeChars_cons, if_neg (Ne.symm h.1),
      ih h.2]
    rfl

/-- What was read between quotes stood there with its quotes doubled. -/
theorem eq_of_readQuoted {cs text rest : List Char}
    (h : Invocation.readQuoted cs = some (text, rest)) :
    cs = Literal.escapeChars text ++ '\'' :: rest := by
  fun_induction Invocation.readQuoted cs generalizing text with
  | case1 => cases h
  | case2 cs ih =>
    obtain ⟨r, hr, heq⟩ := Option.map_eq_some_iff.mp h
    obtain ⟨rfl, rfl⟩ := Prod.mk.inj heq
    rw [ih hr]
    rfl
  | case3 cs =>
    obtain ⟨rfl, rfl⟩ := Prod.mk.inj (Option.some.inj h)
    rfl
  | case4 c cs _ hc ih =>
    obtain ⟨r, hr, heq⟩ := Option.map_eq_some_iff.mp h
    obtain ⟨rfl, rfl⟩ := Prod.mk.inj heq
    rw [ih hr, Literal.escapeChars_cons, if_neg hc]
    rfl

theorem not_mem_of_readQuoted {cs rest rest' : List Char} (hrest : rest.head? ≠ some '\'')
    (h : Invocation.readQuoted (cs ++ '\'' :: rest) = some (cs, rest')) : '\'' ∉ cs := by
  -- From the first quote on, the doubled text runs ahead by one quote more for every quote.
  have hahead : ∀ (cs : List Char) (n : Nat),
      cs ++ '\'' :: rest ≠
        List.replicate (n + 1) '\'' ++ Literal.escapeChars cs ++ '\'' :: rest' := by
    intro cs
    induction cs with
    | nil =>
      intro n heq
      rw [List.replicate_succ] at heq
      have htail := (List.cons.inj heq).2
      apply hrest
      rw [htail]
      cases n <;> rfl
    | cons c cs ih =>
      intro n heq
      rw [List.replicate_succ] at heq
      obtain ⟨rfl, htail⟩ := List.cons.inj heq
      refine ih (n + 1) ?_
      change cs ++ '\'' :: rest = List.replicate n '\'' ++ Literal.escapeChars ('\'' :: cs) ++
        '\'' :: rest' at htail
      rw [htail, Literal.escapeChars_cons, if_pos rfl]
      simp [List.replicate_succ', List.append_assoc]
  have heq := eq_of_readQuoted h
  clear h
  induction cs with
  | nil => exact List.not_mem_nil
  | cons c cs ih =>
    rw [Literal.escapeChars_cons] at heq
    by_cases hc : c = '\''
    · rw [if_pos hc, hc] at heq
      exact absurd (List.cons.inj heq).2 (hahead cs 0)
    · rw [if_neg hc] at heq
      rw [List.mem_cons, not_or]
      exact ⟨Ne.symm hc, ih (List.cons.inj heq).2⟩

theorem literal?_quote (s : String) {rest : List Char} (hrest : rest.head? ≠ some '\'') :
    literal? ((Literal.quote s).toList ++ rest) = some (s, rest) := by
  have hread := Invocation.readQuoted_escapeChars s.toList hrest
  simp [Literal.quote, Literal.escape, literal?, hread]

/-- A text that was written between quotes as it is, without doubling any quote, is read back if and
only if it holds none. -/
theorem literal?_iff (s : String) {rest rest' : List Char} (hrest : rest.head? ≠ some '\'') :
    literal? ('\'' :: (s.toList ++ '\'' :: rest)) = some (s, rest') ↔
      '\'' ∉ s.toList ∧ rest' = rest := by
  rw [literal?]
  constructor
  · intro h
    obtain ⟨r, hr, heq⟩ := Option.map_eq_some_iff.mp h
    obtain ⟨htext, hrest'⟩ := Prod.mk.inj heq
    have hfirst : r.1 = s.toList := by rw [← htext, String.toList_ofList]
    have hread' : Invocation.readQuoted (s.toList ++ '\'' :: rest) = some (s.toList, r.2) := by
      rw [hr, ← hfirst]
    have hfree := not_mem_of_readQuoted hrest hread'
    have hread := Invocation.readQuoted_escapeChars s.toList hrest
    rw [escapeChars_of_not_mem hfree, hr] at hread
    exact ⟨hfree, by rw [← hrest', Option.some.inj hread]⟩
  · rintro ⟨hfree, rfl⟩
    have hread := Invocation.readQuoted_escapeChars s.toList hrest
    rw [escapeChars_of_not_mem hfree] at hread
    rw [hread, Option.map_some, String.ofList_toList]

/-! ## Words and numbers -/

/-- What follows a word. -/
def word? (word : String) (cs : List Char) : Option (List Char) :=
  if startsWith word.toList cs then some (cs.drop word.toList.length) else none

theorem word?_append (word : String) (rest : List Char) :
    word? word (word.toList ++ rest) = some rest := by
  have hstart : startsWith word.toList (word.toList ++ rest) = true :=
    startsWith_iff.mpr (List.prefix_append _ _)
  rw [word?, if_pos hstart, List.drop_left]

/-- Reads what stands behind a word. -/
def field? {α : Type} (word : String) (item? : List Char → Option (α × List Char))
    (cs : List Char) : Option (α × List Char) := (word? word cs).bind item?

theorem field?_append {α : Type} (word : String) (item? : List Char → Option (α × List Char))
    (rest : List Char) : field? word item? (word.toList ++ rest) = item? rest := by
  rw [field?, word?_append, Option.bind_some]

/-- Reads an integer that a semicolon ends. -/
def integer? (cs : List Char) : Option (Int × List Char) :=
  (String.ofList (cs.takeWhile (· ≠ ';'))).toInt?.map fun n => (n, cs.dropWhile (· ≠ ';'))

theorem integer?_append (n : Int) {rest : List Char} (hrest : rest.head? = some ';') :
    integer? ((toString n).toList ++ rest) = some (n, rest) := by
  obtain ⟨more, rfl⟩ := List.head?_eq_some_iff.mp hrest
  -- The semicolon is no digit, so the numeral ends where it was written.
  have hdigit : ∀ m : Nat, ∀ c ∈ (Nat.repr m).toList, c ≠ ';' := by
    rintro m c hc rfl
    exact absurd (Invocation.isDigit_of_mem_repr hc) (by decide)
  have hdigits : ∀ c ∈ (toString n).toList, decide (c ≠ ';') = true := by
    intro c hc
    rw [decide_eq_true_iff]
    cases n with
    | ofNat m => exact hdigit m c hc
    | negSucc m =>
      replace hc : c ∈ ("-" ++ Nat.repr (m + 1)).toList := hc
      rw [String.toList_append, List.mem_append] at hc
      rcases hc with hc | hc
      · rw [show "-".toList = ['-'] from rfl, List.mem_singleton] at hc
        rw [hc]
        decide
      · exact hdigit _ c hc
  rw [integer?, List.takeWhile_append_of_pos hdigits, List.dropWhile_append_of_pos hdigits,
    List.takeWhile_cons_of_neg (by decide), List.dropWhile_cons_of_neg (by decide),
    List.append_nil, String.ofList_toList, show (toString n).toInt? = some n from Int.toInt?_repr n,
    Option.map_some]

end Excerpt

/-! ## Pieces of an assembled script -/

namespace Assembler

open Step

variable {a : Assembler} {config : Configuration} {snapshot : Snapshot}

theorem inside_of_system {inner : List Step} {system : PhaseBody} (h : Inside inner system.steps)
    (user : PhaseBody) : Inside inner (a.documentSteps system user) := by
  have hmoved : Inside inner [extend 0 (systemSteps system)] := .extend [] [] le_rfl h
  have hinner := hmoved.indented_one (Opening.header a.logPath ++ Opening.logging a.logPath ++
      Opening.helpers ++ [blank, line "if (-not $UserCustomizations) \x7b"])
    ([line "\x7d", blank, line "if ($UserCustomizations) \x7b",
      indented 1 [extend 0 (userSteps user)], line "\x7d"] ++ Opening.footer)
  simpa [documentSteps] using hinner

theorem inside_of_user {inner : List Step} {user : PhaseBody} (h : Inside inner user.steps)
    (system : PhaseBody) : Inside inner (a.documentSteps system user) := by
  have hbody : Inside inner (userSteps user) := by
    have hinner := h.indented_one (Logon.prologue ++ [line "if (-not $alreadyApplied) \x7b"])
      (line "\x7d" :: Logon.epilogue)
    simpa [userSteps] using hinner
  have hmoved : Inside inner [extend 0 (userSteps user)] := .extend [] [] le_rfl hbody
  have hinner := hmoved.indented_one (Opening.header a.logPath ++ Opening.logging a.logPath ++
      Opening.helpers ++ [blank, line "if (-not $UserCustomizations) \x7b",
        indented 1 [extend 0 (systemSteps system)], line "\x7d", blank,
        line "if ($UserCustomizations) \x7b"])
    (line "\x7d" :: Opening.footer)
  simpa [documentSteps] using hinner

theorem standIn_of_body {script : String} (h : (a.assemble config snapshot).outcome = .ok script)
    {body : PhaseBody} (hbody : (a.systemPhase config snapshot).outcome = .ok body ∨
      (a.userPhase config).outcome = .ok body)
    {inner : List Step} (hinner : allStayRight inner = true) (hinside : Inside inner body.steps) :
    StandIn inner script := by
  obtain ⟨system, user, hsystem, huser, rfl, -⟩ := assemble_of_ok h
  rcases hbody with hbody | hbody
  · obtain rfl := Except.ok.inj (hsystem.symm.trans hbody)
    exact standIn_of_inside (inside_of_system hinside user) hinner
  · obtain rfl := Except.ok.inj (huser.symm.trans hbody)
    exact standIn_of_inside (inside_of_user hinside system) hinner

end Assembler

end Provision
