import Provision.Proofs.Partition
import Provision.Proofs.Report

/-!
# Choices without a setting, and settings without a choice

Nothing but matched pairs of a choice and a setting shapes a script. Choices whose feature has no
setting of their name are stale: without them a script is the same, and so are the notices but for
those that a choice is stale. So it is without the settings that no choice names, except those of
the power feature, whose readings are set for all of them.

* `Configuration.matched`, `Catalog.named`: a configuration without stale choices, and a catalogue
  without the settings that the choices do not name.
* `Draft.sift`: a piece of work with some of its notices; it commutes with work in parts.
* `ChoiceSection.sift_draft`, `ChoiceSection.draft_congr`: one section without stale choices, and
  with other settings of which none is chosen.
* **`Assembler.assemble_matched`**: the script, the counters and the other notices are the same.
-/

namespace Provision

/-! ## What is matched -/

/-- The settings whose choices are looked up without the catalogue too. -/
def isLookedUpApart (id : String) : Bool := id = powerPlanSetting || id = updatePolicySetting

/-- A choice is stale: its feature has no setting of its name, and nothing else looks it up. -/
def Catalog.lacks (catalog : Catalog) (feature id : String) : Bool :=
  !isLookedUpApart id && ((catalog.settings? feature).bind (settingNamed? · id)).isNone

/-- A section without its stale choices. -/
def ChoiceSection.matched (sec : ChoiceSection) (catalog : Catalog) : ChoiceSection :=
  { sec with items := sec.items.filter fun c => !catalog.lacks sec.feature c.id }

/-- A group without stale choices; all its sections stay. -/
def ChoiceGroup.matched (g : ChoiceGroup) (catalog : Catalog) : ChoiceGroup :=
  { g with sections := g.sections.map (·.matched catalog) }

/-- A configuration without stale choices. -/
def Configuration.matched (config : Configuration) (catalog : Catalog) : Configuration :=
  { config with
    optimize := config.optimize.matched catalog
    customize := config.customize.matched catalog }

/-- The settings that choices name. -/
def Configuration.names (config : Configuration) : List String :=
  config.sections.flatMap fun sec => sec.items.map Choice.id

/-- A feature with the settings of some names; that of power settings keeps all. -/
def Feature.named (f : Feature) (names : List String) : Feature :=
  if f.id.sameKey (.str Assembler.powerFeature) then f
  else { f with settings := f.settings.filter fun s => names.contains s.id }

/-- A catalogue without the settings that no choice names; all its features stay. -/
def Catalog.named (catalog : Catalog) (config : Configuration) : Catalog :=
  ⟨catalog.features.map (·.named config.names)⟩

/-- The notice that a choice is stale. -/
def Notice.isStale (catalog : Catalog) : Notice → Bool
  | settingUnknown id feature => catalog.lacks feature id
  | _ => false

/-- The notices that are not about stale choices. -/
def Notice.isFresh (catalog : Catalog) (n : Notice) : Bool := !n.isStale catalog

theorem Notice.OfChoice.isFresh {n : Notice} (h : n.OfChoice) (catalog : Catalog) :
    n.isFresh catalog = true := by
  cases n <;> first | rfl | cases h

theorem Notice.OfPower.isFresh {n : Notice} (h : n.OfPower) (catalog : Catalog) :
    n.isFresh catalog = true := by
  cases n <;> first | rfl | cases h

theorem Notice.OfRemoval.isFresh {n : Notice} (h : n.OfRemoval) (catalog : Catalog) :
    n.isFresh catalog = true := by
  cases n <;> first | rfl | cases h

/-! ## Work with some of its notices -/

namespace Draft

variable {ω α β : Type} {keep : Notice → Bool}

/-- A piece of work with the notices that are kept. -/
def sift (keep : Notice → Bool) (d : Draft ω α) : Draft ω α :=
  ⟨d.outcome, d.items, d.notices.filter keep⟩

theorem sift_bind (d : Draft ω α) (f : α → Draft ω β) :
    (d.bind f).sift keep = (d.sift keep).bind fun a => (f a).sift keep := by
  unfold Draft.bind sift
  cases d.outcome <;> simp

theorem sift_of_reports {d : Draft ω α} (h : d.Reports fun n => keep n = true) :
    d.sift keep = d := by
  rw [sift, List.filter_eq_self.mpr h]

theorem report_of_isWritable {notices : List Notice} (h : ∀ n ∈ notices, n.isWritable = true) :
    (report notices : Draft ω Unit) = ⟨.ok (), [], notices⟩ := by
  rw [report, if_pos (List.all_eq_true.mpr h)]

theorem sift_report {notices : List Notice} (h : ∀ n ∈ notices, n.isWritable = true) :
    (report notices : Draft ω Unit).sift keep = report (notices.filter keep) := by
  rw [report_of_isWritable h,
    report_of_isWritable fun n hn => h n (List.mem_of_mem_filter hn), sift]

end Draft

/-! ## Sections -/

theorem find?_filter_of_imp {α : Type} {p q : α → Bool} (h : ∀ x, q x = true → p x = true)
    (xs : List α) : (xs.filter p).find? q = xs.find? q := by
  rw [List.find?_filter]
  congr 1
  funext x
  cases hq : q x with
  | false => simp
  | true => simp [h x hq]

namespace ChoiceSection

variable {sec : ChoiceSection} {settings other : List Setting} {phase : Phase}
  {label : Option String} {catalog : Catalog}

/-- A section whose choices have the same settings in two catalogues is drafted alike. -/
theorem draft_congr
    (h : ∀ c ∈ sec.items, settingNamed? settings c.id = settingNamed? other c.id) :
    sec.draft settings phase label = sec.draft other phase label := by
  have hnotices : sec.lookupNotices settings = sec.lookupNotices other :=
    List.filterMap_congr fun c hc => by rw [h c hc]
  have hdefined : sec.defined settings = sec.defined other :=
    List.filterMap_congr fun c hc => by rw [h c hc]
  have hkept : sec.kept settings = sec.kept other := by rw [kept, kept, hdefined]
  have happears : sec.appears settings phase = sec.appears other phase := by
    rw [appears, appears, hkept, hdefined]
  have hbody : sec.draftBody settings phase = sec.draftBody other phase := by
    rw [draftBody, draftBody, hkept]
  rw [draft, draft, hnotices, happears, hbody]

theorem lacks_eq (hs : catalog.settings? sec.feature = some settings) (id : String) :
    catalog.lacks sec.feature id =
      (!isLookedUpApart id && (settingNamed? settings id).isNone) := by
  rw [Catalog.lacks, hs, Option.bind_some]

theorem lookupNotices_matched (hs : catalog.settings? sec.feature = some settings) :
    (sec.matched catalog).lookupNotices settings =
      (sec.lookupNotices settings).filter (·.isFresh catalog) := by
  rw [lookupNotices, lookupNotices, List.filter_filterMap, matched, List.filterMap_filter]
  refine List.filterMap_congr fun c _ => ?_
  rw [lacks_eq hs]
  cases hsetting : settingNamed? settings c.id with
  | none => simp [Option.filter, Notice.isFresh, Notice.isStale, lacks_eq hs, hsetting]
  | some s =>
    simp only [Option.isNone_some, Bool.and_false, Bool.not_false, if_true]
    split <;> rfl

theorem defined_matched (hs : catalog.settings? sec.feature = some settings) :
    (sec.matched catalog).defined settings = sec.defined settings := by
  rw [defined, defined, matched, List.filterMap_filter]
  refine List.filterMap_congr fun c _ => ?_
  rw [lacks_eq hs]
  cases hsetting : settingNamed? settings c.id <;> simp

theorem find?_matched {id : String} (hid : isLookedUpApart id = true) :
    (sec.matched catalog).find? id = sec.find? id := by
  refine find?_filter_of_imp (fun c hc => ?_) sec.items
  obtain rfl : c.id = id := by simpa using hc
  simp [Catalog.lacks, hid]

/-- **A section without its stale choices** is drafted alike but for the notices about them. -/
theorem sift_draft (hs : catalog.settings? sec.feature = some settings) :
    (sec.draft settings phase label).sift (·.isFresh catalog) =
      (sec.matched catalog).draft settings phase label := by
  have hdefined := defined_matched hs
  have hkept : (sec.matched catalog).kept settings = sec.kept settings := by
    rw [kept, kept, hdefined]
  have happears : (sec.matched catalog).appears settings phase = sec.appears settings phase := by
    rw [appears, appears, hkept, hdefined]
  have hdisables : (sec.matched catalog).disablesUpdates = sec.disablesUpdates := by
    rw [disablesUpdates, disablesUpdates, find?_matched rfl]
  have hbody : (sec.matched catalog).draftBody settings phase = sec.draftBody settings phase := by
    rw [draftBody, draftBody, hkept, fixedBlocks, fixedBlocks, hdisables]
    rfl
  rw [draft, draft, lookupNotices_matched hs, happears, hbody, Draft.bind_eq, Draft.sift_bind,
    Draft.sift_report isWritable_of_mem_lookupNotices, Draft.bind_eq]
  congr 1
  funext _
  -- nothing else that a section reports is about stale choices
  refine Draft.sift_of_reports (.bind .lift fun w => ?_)
  cases w with
  | false => exact .of_nil rfl
  | true =>
    rw [if_pos rfl]
    refine .bind (.of_nil rfl) fun _ => .bind ?_ fun _ => .bind (.report ?_) fun _ => .of_nil rfl
    · exact (sec.draftBody_reports settings phase).mono fun n hn => hn.isFresh catalog
    · split <;> simp [Notice.isFresh, Notice.isStale]

end ChoiceSection

/-! ## Groups -/

namespace Catalog

variable {catalog : Catalog} {config : Configuration}

theorem feature?_named (id : String) :
    (catalog.named config).feature? id =
      (catalog.feature? id).map (·.named config.names) := by
  rw [feature?, named, List.find?_map, feature?]
  congr 2
  funext f
  rw [Function.comp_apply, Feature.named]
  split <;> rfl

theorem displayName_named (feature : String) :
    (catalog.named config).displayName feature = catalog.displayName feature := by
  rw [displayName, displayName, feature?_named]
  cases catalog.feature? feature with
  | none => rfl
  | some f =>
    simp only [Option.map_some, Feature.named]
    split <;> rfl

theorem settingNamed?_named (f : Feature) {names : List String} {id : String} (hid : id ∈ names) :
    settingNamed? (f.named names).settings id = settingNamed? f.settings id := by
  unfold Feature.named
  split
  · rfl
  · rw [settingNamed?, settingNamed?, ← List.filter_reverse]
    refine find?_filter_of_imp (fun s hs => ?_) _
    obtain rfl : s.id = id := by simpa using hs
    simpa using hid

end Catalog

section Groups

variable {catalog : Catalog} {config : Configuration} {phase : Phase}

theorem Configuration.id_mem_names {sec : ChoiceSection} (hsec : sec ∈ config.sections) {c : Choice}
    (hc : c ∈ sec.items) : c.id ∈ config.names :=
  List.mem_flatMap.mpr ⟨sec, hsec, List.mem_map.mpr ⟨c, hc, rfl⟩⟩

/-- A section keeps its place, its title and the settings of its choices. -/
theorem sift_draftSection {sec : ChoiceSection} (hsec : sec ∈ config.sections) :
    (draftSection catalog phase sec).sift (·.isFresh catalog) =
      draftSection (catalog.named config) phase (sec.matched catalog) := by
  have hincluded : (sec.matched catalog).isIncluded = sec.isIncluded := rfl
  have hfeature : (sec.matched catalog).feature = sec.feature := rfl
  rw [draftSection, draftSection, hincluded, hfeature, Catalog.displayName_named, Catalog.settings?,
    Catalog.settings?, Catalog.feature?_named]
  cases sec.isIncluded with
  | false => rfl
  | true =>
    simp only [Bool.not_true, Bool.false_eq_true, if_false]
    cases hf : catalog.feature? sec.feature with
    | none => rfl
    | some f =>
      have hs : catalog.settings? sec.feature = some f.settings := by
        rw [Catalog.settings?, hf, Option.map_some]
      simp only [Option.map_some]
      rw [Draft.bind_eq, Draft.sift_bind, ChoiceSection.sift_draft hs]
      congr 1
      refine ChoiceSection.draft_congr fun c hc => (Catalog.settingNamed?_named f ?_).symm
      exact config.id_mem_names hsec (List.mem_of_mem_filter hc)

theorem sift_draftSections {secs : List ChoiceSection}
    (hsecs : ∀ sec ∈ secs, sec ∈ config.sections) :
    (draftSections catalog phase secs).sift (·.isFresh catalog) =
      draftSections (catalog.named config) phase (secs.map (·.matched catalog)) := by
  induction secs with
  | nil => rfl
  | cons sec secs ih =>
    obtain ⟨hsec, hsecs⟩ := List.forall_mem_cons.mp hsecs
    rw [draftSections, List.map_cons, draftSections, ← sift_draftSection hsec, ← ih hsecs]
    simp only [Draft.bind_eq, Draft.sift_bind]
    rfl

theorem sift_draftGroup {g : ChoiceGroup} (hg : g ∈ config.groups) :
    (g.draft catalog phase).sift (·.isFresh catalog) =
      (g.matched catalog).draft (catalog.named config) phase := by
  have hsecs : ∀ sec ∈ g.sections, sec ∈ config.sections := fun sec hsec =>
    List.mem_flatMap.mpr ⟨g, hg, hsec⟩
  have hsections : (g.matched catalog).sections = g.sections.map (·.matched catalog) := rfl
  rw [ChoiceGroup.draft, ChoiceGroup.draft, hsections, ← sift_draftSections hsecs]
  simp only [Draft.bind_eq, Draft.sift_bind]
  rfl

theorem sift_draftGroups {gs : List ChoiceGroup} (hgs : ∀ g ∈ gs, g ∈ config.groups) :
    (draftGroups catalog phase gs).sift (·.isFresh catalog) =
      draftGroups (catalog.named config) phase (gs.map (·.matched catalog)) := by
  induction gs with
  | nil => rfl
  | cons g gs ih =>
    obtain ⟨hg, hgs⟩ := List.forall_mem_cons.mp hgs
    have hempty : (g.matched catalog).sections.isEmpty = g.sections.isEmpty := by
      simp [ChoiceGroup.matched]
    rw [draftGroups, List.map_cons, draftGroups, hempty, ← sift_draftGroup hg, ← ih hgs]
    split <;> simp only [Draft.bind_eq, Draft.sift_bind] <;> rfl

end Groups

/-! ## The whole script -/

namespace Assembler

variable (a : Assembler) (config : Configuration) (snapshot : Snapshot)

theorem find?_matched (g : ChoiceGroup) (catalog : Catalog) (feature : String) :
    (g.matched catalog).find? feature = (g.find? feature).map (·.matched catalog) := by
  rw [ChoiceGroup.find?, ChoiceGroup.matched, List.find?_map]
  rfl

/-- The choice of a power plan is looked up without the catalogue. -/
theorem plan?_matched (catalog : Catalog) : plan? (config.matched catalog) = plan? config := by
  have hoptimize : (config.matched catalog).optimize = config.optimize.matched catalog := rfl
  rw [plan?, plan?, hoptimize, find?_matched]
  cases config.optimize.find? powerFeature with
  | none => rfl
  | some sec =>
    have hincluded : (sec.matched catalog).isIncluded = sec.isIncluded := rfl
    have hfind : (sec.matched catalog).find? powerPlanSetting = sec.find? powerPlanSetting :=
      ChoiceSection.find?_matched rfl
    simp only [Option.map_some, hincluded, hfind]

theorem settings?_power_named (catalog : Catalog) :
    (catalog.named config).settings? powerFeature = catalog.settings? powerFeature := by
  rw [Catalog.settings?, Catalog.settings?, Catalog.feature?_named, Option.map_map]
  cases hf : catalog.feature? powerFeature with
  | none => rfl
  | some f =>
    have hid : f.id.sameKey (.str powerFeature) = true := by simpa using List.find?_some hf
    simp [Feature.named, hid]

/-- An assembler for the settings that the choices name. -/
def named (a : Assembler) (config : Configuration) : Assembler :=
  { a with catalog := a.catalog.named config }

theorem powerValues_named : (a.named config).powerValues snapshot = a.powerValues snapshot := by
  rw [powerValues, powerValues, named, settings?_power_named]

theorem draftGroups_named (phase : Phase) :
    draftGroups (a.named config).catalog phase (config.matched a.catalog).groups =
      (draftGroups a.catalog phase config.groups).sift (·.isFresh a.catalog) :=
  (sift_draftGroups fun _ hg => hg).symm

theorem systemPhase_matched :
    (a.named config).systemPhase (config.matched a.catalog) snapshot =
      ⟨(a.systemPhase config snapshot).outcome, (a.systemPhase config snapshot).tally,
        (a.systemPhase config snapshot).notices.filter (·.isFresh a.catalog)⟩ := by
  have hremoval : removalSection (config.matched a.catalog) = removalSection config := rfl
  have hend : (a.named config).systemEnd = a.systemEnd := rfl
  have hbefore : ((removalSection config).2 ++ (a.powerValues snapshot).notices).filter
      (·.isFresh a.catalog) = (removalSection config).2 ++ (a.powerValues snapshot).notices := by
    refine List.filter_eq_self.mpr (List.forall_mem_append.mpr ⟨fun n hn => ?_, fun n hn => ?_⟩)
    · exact (removalSection_reports config n hn).isFresh a.catalog
    · exact (a.powerValues_reports snapshot n hn).isFresh a.catalog
  unfold systemPhase
  simp only [hremoval, hend, powerValues_named, plan?_matched, draftGroups_named, Draft.sift]
  cases (a.powerValues snapshot).outcome with
  | error e => simp only [hbefore]
  | ok u =>
    cases PowerSection.steps? (plan? config) (a.powerValues snapshot).items with
    | error m => simp only [hbefore]
    | ok power? =>
      cases (draftGroups a.catalog .system config.groups).outcome <;>
        simp only [List.filter_append _ (draftGroups a.catalog .system config.groups).notices,
          hbefore]

theorem userPhase_matched :
    (a.named config).userPhase (config.matched a.catalog) =
      ⟨(a.userPhase config).outcome, (a.userPhase config).tally,
        (a.userPhase config).notices.filter (·.isFresh a.catalog)⟩ := by
  unfold userPhase
  simp only [draftGroups_named, Draft.sift]
  cases (draftGroups a.catalog .user config.groups).outcome <;> rfl

/-- **Only matched pairs matter**: without stale choices, and without the settings that no choice
names, the script, the counters and the notices are the same, but for the notices that choices are
stale. -/
theorem assemble_matched :
    (a.named config).assemble (config.matched a.catalog) snapshot =
      ⟨(a.assemble config snapshot).outcome, (a.assemble config snapshot).tally,
        (a.assemble config snapshot).notices.filter (·.isFresh a.catalog)⟩ := by
  have hdocument : (a.named config).documentSteps = a.documentSteps := rfl
  unfold assemble
  simp only [systemPhase_matched, userPhase_matched, hdocument]
  cases (a.systemPhase config snapshot).outcome with
  | error e => rfl
  | ok system => cases (a.userPhase config).outcome <;> simp only [List.filter_append]

end Assembler

end Provision
