import Mathlib
import Provision.Inspection
import Provision.Proofs.RemovalScript

/-!
# What a removal plan lists

A plan for items lists names in the order in which the items mention them first.

* `RemovalItem.names`: the names that an item mentions for a list of the plan.
* `FirstMentions`: what is listed is what is mentioned, each name once and where it comes first;
  `FirstMentions.addName` is the step and `FirstMentions.foldl_addName` the run.
* `RemovalPlan.listed_addAll`: the plan collects each of its lists from the names for it alone.
* `RemovalPlan.skipped`: the items that are passed over.
* **`RemovalPlan.ofItems_lists`**: what a plan lists, what more items do to it, and what is passed
  over.
-/

namespace Provision

/-! ## Mentions -/

/-- The lists of a plan. -/
inductive RemovalList where
  | packages
  | capabilities
  | features
  | special

/-- What a plan has in a list. -/
def RemovalPlan.listed (p : RemovalPlan) : RemovalList → List String
  | .packages => p.packages
  | .capabilities => p.capabilities
  | .features => p.features
  | .special => p.special

namespace RemovalItem

/-- An item stands for itself, and neither for the browser nor for the file synchronisation. -/
def IsPlain (item : RemovalItem) : Prop :=
  item.id ≠ RemovalPlan.edgeItem ∧ item.id ≠ RemovalPlan.oneDriveItem

instance (item : RemovalItem) : Decidable item.IsPlain :=
  inferInstanceAs (Decidable (_ ∧ _))

/-- The names that an item mentions for a list, in order. -/
def names (list : RemovalList) (item : RemovalItem) : List String :=
  if item.IsPlain ∧ item.name ≠ "" then
    match list, item.kind with
    | .packages, .package => item.name :: item.subPackages
    | .capabilities, .capability => [item.name]
    | .features, .optionalFeature => [item.name]
    | .special, .package =>
      if RemovalPlan.mentions item.name "onenote" then ["OneNote"] else []
    | _, _ => []
  else []

theorem isRemovable_eq_false_iff {item : RemovalItem} :
    item.isRemovable = false ↔ item.IsPlain ∧ item.name = "" := by
  simp [isRemovable, IsPlain, and_assoc]

end RemovalItem

/-! ## First mentions -/

/-- What is listed is what is mentioned, but for the empty name, each name once and in the order of
first mention. -/
structure FirstMentions (mentioned listed : List String) : Prop where
  mem_iff : ∀ name, name ∈ listed ↔ name ≠ "" ∧ name ∈ mentioned
  nodup : listed.Nodup
  ordered : listed.Pairwise fun a b => mentioned.idxOf a < mentioned.idxOf b

namespace RemovalPlan

theorem addName_of_mem {listed : List String} {name : String} (h : name = "" ∨ name ∈ listed) :
    addName listed name = listed := by
  rw [addName, if_pos]
  simpa using h

theorem addName_of_notMem {listed : List String} {name : String} (hname : name ≠ "")
    (h : name ∉ listed) : addName listed name = listed ++ [name] := by
  rw [addName, if_neg]
  simp [hname, h]

theorem isPrefix_addName (listed : List String) (name : String) :
    listed <+: addName listed name := by
  by_cases h : name = "" ∨ name ∈ listed
  · rw [addName_of_mem h]
  · obtain ⟨hname, hmem⟩ := not_or.mp h
    rw [addName_of_notMem hname hmem]
    exact List.prefix_append _ _

theorem isPrefix_foldl_addName (listed names : List String) :
    listed <+: names.foldl addName listed := by
  induction names generalizing listed with
  | nil => exact List.prefix_rfl
  | cons name names ih => exact (isPrefix_addName listed name).trans (ih _)

theorem foldl_addName_of_forall_mem {listed names : List String}
    (h : ∀ name ∈ names, name = "" ∨ name ∈ listed) : names.foldl addName listed = listed := by
  induction names with
  | nil => rfl
  | cons name names ih =>
    obtain ⟨hname, hnames⟩ := List.forall_mem_cons.mp h
    rw [List.foldl_cons, addName_of_mem hname, ih hnames]

end RemovalPlan

namespace FirstMentions

variable {mentioned listed : List String}

theorem nil : FirstMentions [] [] := ⟨by simp, List.nodup_nil, List.Pairwise.nil⟩

theorem idxOf_append_lt (h : FirstMentions mentioned listed) (more : List String) :
    listed.Pairwise fun a b => (mentioned ++ more).idxOf a < (mentioned ++ more).idxOf b := by
  refine h.ordered.imp_of_mem fun ha hb hlt => ?_
  rw [List.idxOf_append_of_mem ((h.mem_iff _).mp ha).2,
    List.idxOf_append_of_mem ((h.mem_iff _).mp hb).2]
  exact hlt

theorem addName (h : FirstMentions mentioned listed) (name : String) :
    FirstMentions (mentioned ++ [name]) (RemovalPlan.addName listed name) := by
  by_cases hold : name = "" ∨ name ∈ listed
  · rw [RemovalPlan.addName_of_mem hold]
    refine ⟨fun n => ?_, h.nodup, h.idxOf_append_lt _⟩
    rw [h.mem_iff, List.mem_append, List.mem_singleton]
    constructor
    · exact fun ⟨hne, hn⟩ => ⟨hne, .inl hn⟩
    · rintro ⟨hne, hn | rfl⟩
      · exact ⟨hne, hn⟩
      · exact (h.mem_iff n).mp (hold.resolve_left hne)
  · obtain ⟨hname, hnew⟩ := not_or.mp hold
    have hfirst : name ∉ mentioned := fun hn => hnew ((h.mem_iff name).mpr ⟨hname, hn⟩)
    rw [RemovalPlan.addName_of_notMem hname hnew]
    refine ⟨fun n => ?_, ?_, ?_⟩
    · rw [List.mem_append, List.mem_append, List.mem_singleton, h.mem_iff]
      constructor
      · rintro (⟨hne, hn⟩ | rfl)
        · exact ⟨hne, .inl hn⟩
        · exact ⟨hname, .inr rfl⟩
      · rintro ⟨hne, hn | rfl⟩
        · exact .inl ⟨hne, hn⟩
        · exact .inr rfl
    · exact List.nodup_append.mpr ⟨h.nodup, List.nodup_singleton name, fun a ha b hb hab =>
        hnew (List.mem_singleton.mp hb ▸ hab ▸ ha)⟩
    · refine List.pairwise_append.mpr ⟨h.idxOf_append_lt _, List.pairwise_singleton _ _, ?_⟩
      intro a ha b hb
      have hmem := ((h.mem_iff a).mp ha).2
      rw [List.mem_singleton.mp hb, List.idxOf_append_of_mem hmem,
        List.idxOf_append_of_notMem hfirst]
      exact (List.idxOf_lt_length_of_mem hmem).trans_le (Nat.le_add_right _ _)

/-- **First mentions stay first mentions** when names are mentioned and added one after the
other. -/
theorem foldl_addName (h : FirstMentions mentioned listed) (names : List String) :
    FirstMentions (mentioned ++ names) (names.foldl RemovalPlan.addName listed) := by
  induction names generalizing mentioned listed with
  | nil => rwa [List.append_nil]
  | cons name names ih =>
    have hnext := ih (h.addName name)
    rwa [List.append_assoc] at hnext

end FirstMentions

/-! ## The lists of a plan -/

namespace RemovalPlan

/-- A plan is its lists and its flags. -/
theorem eq_of_listed {p q : RemovalPlan} (h : ∀ list, p.listed list = q.listed list)
    (hedge : p.edge = q.edge) (honeDrive : p.oneDrive = q.oneDrive) : p = q := by
  have hpackages : p.packages = q.packages := h .packages
  have hcapabilities : p.capabilities = q.capabilities := h .capabilities
  have hfeatures : p.features = q.features := h .features
  have hspecial : p.special = q.special := h .special
  cases p
  simp only at hpackages hcapabilities hfeatures hspecial hedge honeDrive
  rw [hpackages, hcapabilities, hfeatures, hspecial, hedge, honeDrive]

theorem listed_addNamed (p : RemovalPlan) (list : RemovalList) {item : RemovalItem}
    (h : item.IsPlain ∧ item.name ≠ "") :
    (p.addNamed item).listed list = (item.names list).foldl addName (p.listed list) := by
  unfold RemovalItem.names addNamed
  rw [if_pos h]
  cases item.kind with
  | capability => cases list <;> rfl
  | optionalFeature => cases list <;> rfl
  | package =>
    cases list with
    | special => cases hmention : mentions item.name "onenote" <;> simp [listed]
    | _ => rfl

theorem listed_add (p : RemovalPlan) (list : RemovalList) (item : RemovalItem) :
    (p.add item).1.listed list = (item.names list).foldl addName (p.listed list) := by
  by_cases hlists : item.IsPlain ∧ item.name ≠ ""
  · obtain ⟨hplain, hname⟩ := hlists
    rw [← listed_addNamed p list ⟨hplain, hname⟩, add, if_neg hplain.1, if_neg hplain.2,
      if_neg hname]
  · have hnone : item.names list = [] := if_neg hlists
    rw [hnone, add]
    split
    · cases list <;> rfl
    split
    · cases list <;> rfl
    · rename_i hedge honeDrive
      rw [if_pos (not_not.mp fun hname => hlists ⟨⟨hedge, honeDrive⟩, hname⟩)]
      rfl

/-- **A list of the plan is collected from the names for it**, whatever the other items are. -/
theorem listed_addAll (p : RemovalPlan) (list : RemovalList) (items : List RemovalItem) :
    (p.addAll items).1.listed list =
      (items.flatMap (RemovalItem.names list)).foldl addName (p.listed list) := by
  induction items generalizing p with
  | nil => rfl
  | cons item items ih => rw [addAll, ih, listed_add, List.flatMap_cons, List.foldl_append]

theorem flags_add (p : RemovalPlan) (item : RemovalItem) :
    (p.add item).1.edge = (p.edge || item.id == edgeItem) ∧
      (p.add item).1.oneDrive = (p.oneDrive || item.id == oneDriveItem) := by
  have hne : edgeItem ≠ oneDriveItem := by decide
  rw [add]
  split
  · rename_i hedge
    simp [hedge, hne]
  split
  · rename_i hedge honeDrive
    simp [honeDrive, hne.symm]
  split
  · simp_all
  · rename_i hedge honeDrive hname
    rw [addNamed]
    cases item.kind <;> simp [hedge, honeDrive]

theorem flags_addAll (p : RemovalPlan) (items : List RemovalItem) :
    (p.addAll items).1.edge = (p.edge || items.any fun item => item.id == edgeItem) ∧
      (p.addAll items).1.oneDrive =
        (p.oneDrive || items.any fun item => item.id == oneDriveItem) := by
  induction items generalizing p with
  | nil => simp [addAll]
  | cons item items ih =>
    obtain ⟨hedge, honeDrive⟩ := flags_add p item
    rw [addAll, (ih _).1, (ih _).2, hedge, honeDrive]
    simp [Bool.or_assoc]

/-- **The lists of the plan for items hold the first mentions.** -/
theorem firstMentions_ofItems (items : List RemovalItem) (list : RemovalList) :
    FirstMentions (items.flatMap (RemovalItem.names list)) ((ofItems items).1.listed list) := by
  have hnone : empty.listed list = [] := by cases list <;> rfl
  rw [ofItems, listed_addAll, hnone]
  exact FirstMentions.nil.foldl_addName _

theorem isPrefix_listed_append (items more : List RemovalItem) (list : RemovalList) :
    (ofItems items).1.listed list <+: (ofItems (items ++ more)).1.listed list := by
  rw [ofItems, ofItems, addAll_append, listed_addAll _ _ more]
  exact isPrefix_foldl_addName _ _

theorem ofItems_append_self (items : List RemovalItem) :
    (ofItems (items ++ items)).1 = (ofItems items).1 := by
  have hlisted : ∀ list, (ofItems (items ++ items)).1.listed list =
      (ofItems items).1.listed list := by
    intro list
    rw [ofItems, addAll_append, listed_addAll _ _ items]
    refine foldl_addName_of_forall_mem fun name hname => ?_
    by_cases hempty : name = ""
    · exact .inl hempty
    · exact .inr (((firstMentions_ofItems items list).mem_iff name).mpr ⟨hempty, hname⟩)
  have hedge : (ofItems (items ++ items)).1.edge = (ofItems items).1.edge := by
    rw [ofItems, ofItems, (flags_addAll _ _).1, (flags_addAll _ _).1, List.any_append]
    simp
  have honeDrive : (ofItems (items ++ items)).1.oneDrive = (ofItems items).1.oneDrive := by
    rw [ofItems, ofItems, (flags_addAll _ _).2, (flags_addAll _ _).2, List.any_append]
    simp
  exact eq_of_listed hlisted hedge honeDrive

end RemovalPlan

/-! ## Who mentions a name -/

namespace RemovalItem

variable {item : RemovalItem} {name : String}

/-- What an item has to be to mention a name for a list. -/
def Mentions (item : RemovalItem) (name : String) : RemovalList → Prop
  | .packages => item.kind = .package ∧ (name = item.name ∨ name ∈ item.subPackages)
  | .capabilities => item.kind = .capability ∧ name = item.name
  | .features => item.kind = .optionalFeature ∧ name = item.name
  | .special =>
    item.kind = .package ∧ RemovalPlan.mentions item.name "onenote" = true ∧ name = "OneNote"

theorem mem_names_iff {list : RemovalList} : name ∈ item.names list ↔
    item.IsPlain ∧ item.name ≠ "" ∧ item.Mentions name list := by
  unfold names
  split
  · cases list <;> cases hkind : item.kind <;> simp_all [Mentions]
  · simp_all

end RemovalItem

namespace RemovalPlan

variable {items : List RemovalItem}

/-- A plan lists what items mention. -/
structure Lists (plan : RemovalPlan) (items : List RemovalItem) : Prop where
  mem_iff : ∀ list name, name ∈ plan.listed list ↔
    name ≠ "" ∧ ∃ item ∈ items, item.IsPlain ∧ item.name ≠ "" ∧ item.Mentions name list
  firstMentions : ∀ list, FirstMentions (items.flatMap (RemovalItem.names list)) (plan.listed list)
  edge_iff : plan.edge = true ↔ ∃ item ∈ items, item.id = edgeItem
  oneDrive_iff : plan.oneDrive = true ↔ ∃ item ∈ items, item.id = oneDriveItem

theorem lists_ofItems (items : List RemovalItem) : (ofItems items).1.Lists items where
  mem_iff list name := by
    rw [(firstMentions_ofItems items list).mem_iff, List.mem_flatMap]
    simp only [RemovalItem.mem_names_iff]
  firstMentions := firstMentions_ofItems items
  edge_iff := by simp [ofItems, (flags_addAll _ _).1, empty]
  oneDrive_iff := by simp [ofItems, (flags_addAll _ _).2, empty]

/-! ## What is passed over -/

/-- The items that are passed over, with their positions counted from a number. -/
def skipped (position : Nat) (items : List RemovalItem) : List (RemovalItem × Nat) :=
  (items.zipIdx position).filter fun e => !e.1.isRemovable

theorem skipped_cons (position : Nat) (item : RemovalItem) (items : List RemovalItem) :
    skipped position (item :: items) =
      (if item.isRemovable then [] else [(item, position)]) ++ skipped (position + 1) items := by
  rw [skipped, List.zipIdx_cons, List.filter_cons]
  cases item.isRemovable <;> rfl

theorem notices_add (p : RemovalPlan) (item : RemovalItem) :
    (p.add item).2 = if item.isRemovable then [] else [.removalNameless item.id] := by
  rw [add]
  by_cases hskip : item.isRemovable = false
  · obtain ⟨⟨hedge, honeDrive⟩, hname⟩ := RemovalItem.isRemovable_eq_false_iff.mp hskip
    rw [if_neg hedge, if_neg honeDrive, if_pos hname, hskip]
    rfl
  · rw [if_pos (Bool.eq_true_of_not_eq_false hskip)]
    split
    · rfl
    split
    · rfl
    split
    · rename_i hedge honeDrive hname
      exact absurd (RemovalItem.isRemovable_eq_false_iff.mpr ⟨⟨hedge, honeDrive⟩, hname⟩) hskip
    · rfl

theorem notices_addAll (p : RemovalPlan) (position : Nat) (items : List RemovalItem) :
    (p.addAll items).2 =
      (skipped position items).map fun e => .removalNameless e.1.id := by
  induction items generalizing p position with
  | nil => rfl
  | cons item items ih =>
    rw [addAll, skipped_cons, List.map_append]
    simp only [notices_add, ih _ (position + 1)]
    cases item.isRemovable <;> rfl

theorem mem_skipped_iff {e : RemovalItem × Nat} : e ∈ skipped 0 items ↔
    items[e.2]? = some e.1 ∧ e.1.IsPlain ∧ e.1.name = "" := by
  rw [skipped, List.mem_filter, List.mem_zipIdx_iff_getElem?, Bool.not_eq_true',
    RemovalItem.isRemovable_eq_false_iff]

end RemovalPlan

namespace Inspection

/-- The inspection finds the items that are passed over. -/
theorem ofRemovals_eq (position : Nat) (items : List RemovalItem) :
    ofRemovals position items =
      (RemovalPlan.skipped position items).map fun e => .removalNameless e.2 e.1.id := by
  induction items generalizing position with
  | nil => rfl
  | cons item items ih =>
    rw [ofRemovals, RemovalPlan.skipped_cons, List.map_append, ih]
    refine congrArg (· ++ _) ?_
    by_cases hskip : item.isRemovable = false
    · obtain ⟨⟨hedge, honeDrive⟩, hname⟩ := RemovalItem.isRemovable_eq_false_iff.mp hskip
      rw [if_pos ⟨hname, hedge, honeDrive⟩, hskip]
      rfl
    · rw [if_neg, if_pos (Bool.eq_true_of_not_eq_false hskip)]
      · rfl
      · rintro ⟨hname, hedge, honeDrive⟩
        exact hskip (RemovalItem.isRemovable_eq_false_iff.mpr ⟨⟨hedge, honeDrive⟩, hname⟩)

/-- A finding about something to remove that has no name. -/
def isNameless : Finding → Bool
  | .removalNameless _ _ => true
  | _ => false

theorem isNameless_ofItem {catalog : Catalog} {feature place : String} {c : Choice} :
    ∀ f ∈ ofItem catalog feature place c, isNameless f = false := by
  intro f hf
  rw [ofItem] at hf
  split at hf
  · split at hf <;> simp_all [isNameless]
  · split at hf
    · simp_all [isNameless]
    · rcases List.mem_append.mp hf with hf | hf
      · split at hf <;> simp_all [isNameless]
      · rw [ofRow] at hf
        split at hf
        · simp_all
        split at hf
        · simp_all [isNameless]
        · split at hf <;> simp_all [isNameless]

theorem isNameless_ofSection {catalog : Catalog} {group : String} {sec : ChoiceSection} :
    ∀ f ∈ ofSection catalog group sec, isNameless f = false := by
  intro f hf
  rw [ofSection] at hf
  split at hf
  · cases hf
  split at hf
  · simp_all [isNameless]
  split at hf
  · simp_all [isNameless]
  · obtain ⟨c, -, hf⟩ := List.mem_flatMap.mp hf
    exact isNameless_ofItem f hf

/-- What is found about names is found about the things to remove. -/
theorem filter_isNameless_ofDocuments (catalog : Catalog) (config : Configuration) :
    (ofDocuments catalog config).filter isNameless = ofRemovals 0 config.removals := by
  have hsections : (config.groups.flatMap fun g =>
      g.sections.flatMap (ofSection catalog g.name)).filter isNameless = [] := by
    refine List.filter_eq_nil_iff.mpr fun f hf => ?_
    obtain ⟨g, -, hf⟩ := List.mem_flatMap.mp hf
    obtain ⟨sec, -, hf⟩ := List.mem_flatMap.mp hf
    exact Bool.not_eq_true _ ▸ isNameless_ofSection f hf
  have hremovals : ∀ f ∈ ofRemovals 0 config.removals, isNameless f = true := by
    intro f hf
    rw [ofRemovals_eq] at hf
    obtain ⟨e, -, rfl⟩ := List.mem_map.mp hf
    rfl
  rw [ofDocuments, List.filter_append, hsections, List.nil_append,
    List.filter_eq_self.mpr hremovals]

end Inspection

/-! ## Any items -/

/-- **Items are sorted without loss, invention or duplication.** For any items, the plan lists what
they mention: in each list the names mentioned for it, each once and in the order of first mention,
where the items of the browser and the file synchronisation only set their flags. More items add
behind, and the same items add nothing. The items that are passed over with a notice are those that
an inspection of any documents with these items finds nameless. -/
theorem RemovalPlan.ofItems_lists (items : List RemovalItem) :
    (ofItems items).1.Lists items ∧
      (∀ more list, (ofItems items).1.listed list <+: (ofItems (items ++ more)).1.listed list) ∧
      (ofItems (items ++ items)).1 = (ofItems items).1 ∧
      (ofItems items).2 = (skipped 0 items).map (fun e => .removalNameless e.1.id) ∧
      (∀ e, e ∈ skipped 0 items ↔ items[e.2]? = some e.1 ∧ e.1.IsPlain ∧ e.1.name = "") ∧
      ∀ (catalog : Catalog) (config : Configuration), config.removals = items →
        (Inspection.ofDocuments catalog config).filter Inspection.isNameless =
          (skipped 0 items).map fun e => .removalNameless e.2 e.1.id := by
  refine ⟨lists_ofItems items, isPrefix_listed_append items, ofItems_append_self items,
    notices_addAll .empty 0 items, fun e => mem_skipped_iff, ?_⟩
  rintro catalog config rfl
  rw [Inspection.filter_isNameless_ofDocuments, Inspection.ofRemovals_eq]

end Provision
