import Provision.Proofs.BlockLines

/-!
# Headers of sections

A section begins with a banner: its title between two rules and two empty lines.

* `headers`: the titles of the sections that begin among lines, read from the lines alone.
* `Calm`: lines that may follow a banner without changing how it is read.
* `Block.WritesLine`: blocks that write at least one line.
* **`Block.headers_allLines`**: the headers among the lines of blocks are the titles of the blocks.
-/

namespace Provision

/-! ## Reading headers -/

namespace Line

/-- A rule above or below a title, behind blanks. -/
def isRule (l : Line) : Bool :=
  !l.verbatim && l.text.toList.dropWhile (· = ' ') == Step.rule.toList

/-- The text of a comment, behind blanks. -/
def comment? (l : Line) : Option String :=
  match l.text.toList.dropWhile (· = ' ') with
  | '#' :: ' ' :: cs => some (String.ofList cs)
  | _ => none

/-- The first line below the banner of the hardening of updates. -/
def beginsHardening (l : Line) : Bool :=
  !l.verbatim && opens (String.ofList hardeningHead) l.text

end Line

/-- The title of the section that begins with the first of some lines. The hardening of updates is
part of its section, so its banner is none of a section. -/
def header? : List Line → Option String
  | above :: rule :: title :: rule' :: below :: rest =>
    if above = ⟨"", false⟩ ∧ rule.isRule ∧ rule'.isRule ∧ below = ⟨"", false⟩ ∧
        !rest.head?.any Line.beginsHardening then
      title.comment?
    else none
  | _ => none

/-- The titles of the sections that begin among lines. -/
def headers : List Line → List String
  | [] => []
  | l :: ls => (header? (l :: ls)).toList ++ headers ls

/-- The lines that a section begins with. -/
def headerLines (level : Int) (title : String) : List Line :=
  [⟨"", false⟩, Line.plain level Step.rule, Line.plain level ("# " ++ title),
    Line.plain level Step.rule, ⟨"", false⟩]

/-- No line at the head of lines belongs to the banner before it. -/
def Calm (ls : List Line) : Prop :=
  ∀ l ∈ ls.head?, l.isRule = false ∧ l.beginsHardening = false

theorem calm_nil : Calm [] := fun _ hl => nomatch hl

theorem calm_cons {l : Line} {ls : List Line} :
    Calm (l :: ls) ↔ l.isRule = false ∧ l.beginsHardening = false := by
  simp [Calm]

namespace Line

theorem isRule_of_avoids {l : Line} (h : l.Avoids [titleHead]) : l.isRule = false := by
  rw [isRule, Bool.and_eq_false_iff, Bool.not_eq_false', beq_eq_false_iff_ne]
  refine h.imp_right fun htext heq => ?_
  have hopens := htext titleHead List.mem_cons_self
  rw [opens, heq] at hopens
  exact Bool.false_ne_true (hopens.symm.trans (by decide +kernel))

theorem beginsHardening_of_avoids {l : Line} (h : l.Avoids [hardeningHead]) :
    l.beginsHardening = false := by
  rw [beginsHardening, Bool.and_eq_false_iff, Bool.not_eq_false']
  exact h.imp_right fun htext => htext hardeningHead List.mem_cons_self

theorem isRule_plain_rule (level : Int) : (plain level Step.rule).isRule = true := by
  have hplain : (plain level Step.rule).verbatim = false := rfl
  have hdrop : Step.rule.toList.dropWhile (· = ' ') = Step.rule.toList := by decide +kernel
  rw [isRule, hplain, dropWhile_plain, hdrop, beq_self_eq_true]
  rfl

theorem comment?_plain (level : Int) (title : String) :
    (plain level ("# " ++ title)).comment? = some title := by
  have hdrop : ("# " ++ title).toList.dropWhile (· = ' ') = '#' :: ' ' :: title.toList := by
    rw [String.toList_append]
    rfl
  rw [comment?, dropWhile_plain, hdrop]
  exact congrArg some String.ofList_toList

theorem plain_ne_blank {level : Int} {text : String} (h : text ≠ "") :
    plain level text ≠ ⟨"", false⟩ := by
  simp [plain, h]

end Line

/-! ## Lines without headers -/

theorem header?_of_ne_blank {l : Line} (h : l ≠ ⟨"", false⟩) (ls : List Line) :
    header? (l :: ls) = none := by
  unfold header?
  split <;> simp_all

theorem header?_of_head {ls : List Line} (h : ∀ m ∈ ls.head?, m.isRule = false) (l : Line) :
    header? (l :: ls) = none := by
  unfold header?
  split <;> simp_all

/-- Lines without rules hold no header, unless a rule follows them. -/
theorem headers_append {ls more : List Line} (h : ∀ l ∈ ls, l.isRule = false)
    (hmore : ∀ m ∈ more.head?, m.isRule = false) : headers (ls ++ more) = headers more := by
  induction ls with
  | nil => rfl
  | cons l ls ih =>
    obtain ⟨-, hls⟩ := List.forall_mem_cons.mp h
    have hhead : ∀ m ∈ (ls ++ more).head?, m.isRule = false := by
      intro m hm
      cases ls with
      | nil => exact hmore m hm
      | cons next ls =>
        rw [← Option.some.inj hm]
        exact hls next List.mem_cons_self
    rw [List.cons_append, headers, header?_of_head hhead, ih hls]
    rfl

/-! ## Banners -/

theorem headers_headerLines (level : Int) (title : String) {more : List Line}
    (hmore : ∀ m ∈ more.head?, m.isRule = false) :
    headers (headerLines level title ++ more) =
      (if more.head?.any Line.beginsHardening then [] else [title]) ++ headers more := by
  have hrule : Line.plain level Step.rule ≠ ⟨"", false⟩ := Line.plain_ne_blank (by decide +kernel)
  have htitle : Line.plain level ("# " ++ title) ≠ ⟨"", false⟩ :=
    Line.plain_ne_blank (by simp)
  -- only the first line of the banner is followed by a banner
  simp only [headerLines, List.cons_append, List.nil_append, headers, header?_of_ne_blank hrule,
    header?_of_ne_blank htitle, header?_of_head hmore, Option.toList_none]
  simp only [header?, Line.isRule_plain_rule, Line.comment?_plain]
  cases more.head?.any Line.beginsHardening <;> rfl

/-! ## Titles of blocks -/

namespace Block

/-- The title that a block begins a section with. -/
def title? : Block → Option String
  | title text => some text
  | _ => none

/-- The titles among blocks. -/
def titles (blocks : List Block) : List String := blocks.filterMap title?

/-- A block that writes at least one line: no registry target without commands. -/
def WritesLine : Block → Prop
  | registry _ _ commands => commands ≠ []
  | _ => True

theorem titles_cons (b : Block) (bs : List Block) :
    titles (b :: bs) = b.title?.toList ++ titles bs := by
  rw [titles, List.filterMap_cons]
  cases b.title? <;> rfl

/-! ## Headers among the lines of blocks -/

theorem allLines_title (level : Int) (text : String) :
    Step.allLines level (title text).steps = headerLines level text := List.append_nil _

theorem allLines_hardening (level : Int) :
    Step.allLines level hardening.steps =
      headerLines level "WINDOWS UPDATE DISABLED MODE - ADDITIONAL HARDENING" ++
        (Step.allLines level Hardening.updatesText.steps ++ [⟨"", false⟩]) := by
  simp [steps, Hardening.updates, Step.allLines, Step.allLines_append, Step.lines, headerLines]

/-- How no line begins that belongs to the banner before it. -/
def bannerHeads : List (List Char) := [titleHead, hardeningHead]

theorem calm_of_avoids {l : Line} {ls : List Line} (h : l.Avoids bannerHeads) : Calm (l :: ls) :=
  calm_cons.mpr ⟨Line.isRule_of_avoids (h.mono (by simp [bannerHeads])),
    Line.beginsHardening_of_avoids (h.mono (by simp [bannerHeads]))⟩

/-- A block begins with a line that belongs to no banner before it. -/
theorem WritesLine.exists_first {b : Block} (h : b.WritesLine) (level : Int) :
    ∃ l ls, Step.allLines level b.steps = l :: ls ∧ l.Avoids bannerHeads := by
  have hblank : Line.Avoids bannerHeads ⟨"", false⟩ := Line.avoids_blank (by decide)
  cases b with
  | title text => exact ⟨_, _, rfl, hblank⟩
  | registry target value commands =>
    obtain ⟨c, cs, rfl⟩ := List.exists_cons_of_ne_nil h
    exact ⟨_, _, rfl, Line.avoids_plain_iff.mpr (c.avoids_text.mono (by simp [bannerHeads]))⟩
  | power setting command =>
    exact ⟨_, _, rfl, Line.avoids_plain_iff.mpr
      (command.avoids_text.mono (by simp [bannerHeads, markedHeads]))⟩
  | powerDone description =>
    -- the quote tells it from the hardening of updates
    have hquote : "Write-Log '" = "Write-Log " ++ "'" := by decide
    have hfirst : ∀ more, Avoids bannerHeads ("Write-Log '" ++ more) := avoids_append (by rfl)
    refine ⟨_, _, rfl, Line.avoids_plain_iff.mpr ?_⟩
    rw [Literal.quote]
    rw [hquote] at hfirst
    simp only [String.append_assoc] at hfirst ⊢
    exact hfirst _
  | registryFile setting phase content =>
    exact ⟨_, _, rfl, Line.avoids_plain_iff.mpr (avoids_ofList (by rfl))⟩
  | hibernation on => exact ⟨_, _, rfl, hblank⟩
  | tasks changes => exact ⟨_, _, rfl, hblank⟩
  | wallpaper =>
    rw [steps, Wallpaper.stock, List.cons_append, Step.allLines, Step.lines, List.singleton_append]
    exact ⟨_, _, rfl, hblank⟩
  | hardening =>
    rw [allLines_hardening, headerLines, List.cons_append]
    exact ⟨_, _, rfl, hblank⟩

theorem calm_allLines {blocks : List Block} (h : ∀ b ∈ blocks, b.WritesLine) (level : Int) :
    Calm (allLines level blocks) := by
  cases blocks with
  | nil => exact calm_nil
  | cons b bs =>
    obtain ⟨l, ls, heq, hl⟩ := (h b List.mem_cons_self).exists_first level
    rw [allLines_cons, heq]
    exact calm_of_avoids hl

theorem exists_first_hardening (level : Int) :
    ∃ l ls, Step.allLines level Hardening.updatesText.steps = l :: ls ∧
      l.beginsHardening = true := by
  have hhead : Hardening.updatesText.head? =
      some "Write-Log \"Applying Windows Update Disabled mode hardening...\" \"INFO\"" := rfl
  obtain ⟨texts, htexts⟩ := List.head?_eq_some_iff.mp hhead
  have hplain : ∀ text, (Line.plain level text).verbatim = false := fun _ => rfl
  refine ⟨_, _, by rw [Fragment.steps, htexts, Step.allLines_map_line, List.map_cons], ?_⟩
  rw [Line.beginsHardening, opens_plain, hplain]
  decide +kernel

theorem headers_hardening (level : Int) {more : List Line} (hmore : Calm more) :
    headers (Step.allLines level hardening.steps ++ more) = headers more := by
  have havoids : ∀ l ∈ Step.allLines level Hardening.updatesText.steps ++ [⟨"", false⟩],
      l.Avoids [titleHead] := by
    simp only [List.forall_mem_append, List.forall_mem_singleton]
    exact ⟨fun l hl => (Line.avoids_fixed (by simp [fixedTexts]) level l hl).mono
      (by simp [markedHeads]), Line.avoids_blank (by decide)⟩
  have hrules := fun l hl => Line.isRule_of_avoids (havoids l hl)
  obtain ⟨l, ls, heq, hl⟩ := exists_first_hardening level
  rw [heq] at hrules
  have hhead : ∀ m ∈ some l, m.isRule = false := fun m hm => by
    rw [← Option.some.inj hm]
    exact hrules l List.mem_cons_self
  have hfirst : (l :: ls ++ [(⟨"", false⟩ : Line)] ++ more).head? = some l := rfl
  rw [allLines_hardening, List.append_assoc, heq, headers_headerLines level _ (hfirst ▸ hhead),
    hfirst, Option.any_some, hl, if_pos rfl, List.nil_append]
  exact headers_append hrules fun m hm => (hmore m hm).1

theorem headers_append_of_not_title {b : Block} (h : b.title? = none) (level : Int)
    {more : List Line} (hmore : Calm more) :
    headers (Step.allLines level b.steps ++ more) = headers more := by
  by_cases hhardening : b = hardening
  · rw [hhardening, headers_hardening level hmore]
  · have hhead : [titleHead] ⊆ b.foreignHeads := by
      cases b with
      | title text => cases h
      | hardening => exact absurd rfl hhardening
      | _ => simp [foreignHeads, markedHeads]
    have hrules : ∀ l ∈ Step.allLines level b.steps, l.isRule = false := fun l hl =>
      Line.isRule_of_avoids ((b.avoids_foreignHeads level l hl).mono hhead)
    exact headers_append hrules fun m hm => (hmore m hm).1

/-- **The headers among the lines of blocks** are the titles of the blocks. -/
theorem headers_allLines {blocks : List Block} (h : ∀ b ∈ blocks, b.WritesLine) (level : Int) :
    headers (allLines level blocks) = titles blocks := by
  induction blocks with
  | nil => rfl
  | cons b bs ih =>
    obtain ⟨-, hbs⟩ := List.forall_mem_cons.mp h
    have hmore := calm_allLines hbs level
    rw [titles_cons, ← ih hbs, allLines_cons]
    cases htitle : b.title? with
    | none => exact headers_append_of_not_title htitle level hmore
    | some text =>
      cases b <;> cases htitle
      have hnone : (allLines level bs).head?.any Line.beginsHardening = false := by
        rw [Option.any_eq_false]
        exact fun m hm => by rw [(hmore m hm).2]
      rw [allLines_title, headers_headerLines level text fun m hm => (hmore m hm).1, hnone]
      rfl

end Block

end Provision
