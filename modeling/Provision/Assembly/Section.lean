import Provision.Part.Section
import Provision.Resolution.Power

/-!
# Drafting sections

* `ChoiceSection.kept`: the choices that a section carries out, each with its setting.
* `ChoiceSection.draft`: the section of a feature in one phase.
* `ChoiceGroup.draft`, `draftGroups`: the sections of a group, and of all groups.

A feature whose entries all belong to the other phase has no section. A feature without entries in
either phase has its title in the system phase.
-/

namespace Provision

/-- The setting that turns hibernation on and off. -/
def hibernationSetting : String := "power-hibernation-enable"

/-- The setting that chooses how updates are done. -/
def updatePolicySetting : String := "updates-policy-mode"

/-- The choice of the update policy that disables updates. -/
def updatesDisabledIndex : Int := 3

/-- The feature whose user phase sets the wallpaper. -/
def themeFeature : String := "windows-theme-customization"

/-- The feature of the update policy. -/
def updateFeature : String := "update"

/-- The setting with a given name; of several the last. -/
def settingNamed? (settings : List Setting) (id : String) : Option Setting :=
  settings.reverse.find? fun s => s.id == id

/-! ## Which choices are carried out -/

namespace ChoiceSection

/-- The notices about choices without a setting and about settings that drive nothing. -/
def lookupNotices (sec : ChoiceSection) (settings : List Setting) : List Notice :=
  sec.items.filterMap fun c =>
    match settingNamed? settings c.id with
    | none => some (.settingUnknown c.id sec.feature)
    | some s =>
      if s.hasTargets || s.id = powerPlanSetting || s.id = hibernationSetting then none
      else some (.settingIdle c.id)

theorem forall_mem_lookupNotices {sec : ChoiceSection} {settings : List Setting}
    {kind : Notice → Prop} (hunknown : ∀ id, kind (.settingUnknown id sec.feature))
    (hidle : ∀ id, kind (.settingIdle id)) : ∀ n ∈ sec.lookupNotices settings, kind n := by
  intro n hn
  obtain ⟨c, -, hc⟩ := List.mem_filterMap.mp hn
  split at hc
  · cases hc
    exact hunknown c.id
  · split at hc
    · cases hc
    · cases hc
      exact hidle c.id

/-- The choices that have a setting and do not pick a power plan, each with its setting. -/
def defined (sec : ChoiceSection) (settings : List Setting) : List (Choice × Setting) :=
  sec.items.filterMap fun c =>
    if c.id = powerPlanSetting then none else (settingNamed? settings c.id).map (c, ·)

/-- The choices that the section carries out: those for settings that drive more than power
settings. -/
def kept (sec : ChoiceSection) (settings : List Setting) : List (Choice × Setting) :=
  (sec.defined settings).filter fun p => !p.2.isPowerOnly

end ChoiceSection

/-! ## Which phases have entries -/

/-- Whether a phase imports any of some payloads. -/
def payloadsEnter (on : Bool) (phase : Phase) : List Payload → Except Misfit Bool
  | [] => .ok false
  | p :: ps => do
    match ← RegistryFile.contentPhase? (p.contentFor on) with
    | some (_, owner) => if owner = phase then return true else payloadsEnter on phase ps
    | none => payloadsEnter on phase ps

/-- Whether a choice has an entry in a phase. -/
def entersPhase (phase : Phase) (p : Choice × Setting) : Except Misfit Bool :=
  if !(p.2.targetsFor phase).isEmpty then .ok true
  else if phase = .system && (!p.2.tasks.isEmpty || p.2.id = hibernationSetting) then .ok true
  else payloadsEnter p.1.isOn phase p.2.payloads

/-- Whether any of some choices has an entry in a phase. -/
def anyEntersPhase (phase : Phase) : List (Choice × Setting) → Except Misfit Bool
  | [] => .ok false
  | p :: ps => do
    if ← entersPhase phase p then return true else anyEntersPhase phase ps

/-! ## Blocks -/

/-- The commands for one registry target. -/
def draftAssignment (description : String) (a : Assignment) : Draft Block Unit := do
  Draft.report (a.target.anomaly? a.value).toList
  let commands ← Draft.lift (a.target.statements a.value description)
  Draft.write [.registry a.target a.value commands]

/-- The power settings that a choice asks for in the system phase. -/
def draftPower (phase : Phase) (p : Choice × Setting) : Draft Block Unit :=
  if p.1.kind = .selection && phase = .system && !p.2.power.isEmpty then do
    let values ← Draft.reported (p.2.chosenValues p.1)
    let commands ← Draft.lift (p.2.powerStatements (values.getD []))
    if commands.isEmpty then return ()
    Draft.write (commands.map (Block.power p.2) ++ [.powerDone p.2.description])
  else return ()

/-- The import of one registry file, if it belongs to the phase. -/
def draftPayload (phase : Phase) (p : Choice × Setting) (payload : Payload) :
    Draft Block Unit := do
  match ← Draft.lift (RegistryFile.contentPhase? (payload.contentFor p.1.isOn)) with
  | some (content, owner) =>
    if owner = phase then Draft.write [.registryFile p.2 phase content] else return ()
  | none => return ()

/-- The imports that a toggle asks for. -/
def draftPayloads (phase : Phase) (p : Choice × Setting) : Draft Block Unit :=
  if p.1.kind = .toggle then .each (draftPayload phase p) p.2.payloads else return ()

/-- All blocks of one choice. -/
def draftChoice (phase : Phase) (p : Choice × Setting) : Draft Block Unit := do
  let assignments ← Draft.reported (p.2.assignments p.1 phase)
  Draft.each (draftAssignment p.2.description) assignments
  draftPower phase p
  draftPayloads phase p
  if phase = .system && p.2.id = hibernationSetting then Draft.write [.hibernation p.1.isOn]
  else return ()

/-- The scheduled tasks of one choice. -/
def taskChanges (p : Choice × Setting) : List TaskChange :=
  p.2.tasks.map fun path => ⟨path, TaskBatch.actionFor p.1.isOn, p.2.description⟩

namespace ChoiceSection

/-- The scheduled tasks of a section, which belong to the system phase. -/
def taskBlocks (phase : Phase) (pairs : List (Choice × Setting)) : List Block :=
  let changes := pairs.flatMap taskChanges
  if phase = .system && !changes.isEmpty then [.tasks changes] else []

/-- Whether the choices disable updates. -/
def disablesUpdates (sec : ChoiceSection) : Bool :=
  match sec.find? updatePolicySetting with
  | some c => c.index == some updatesDisabledIndex
  | none => false

/-- The blocks that belong to certain features whatever their settings. -/
def fixedBlocks (sec : ChoiceSection) (phase : Phase) : List Block :=
  (if sec.feature = themeFeature && phase = .user then [.wallpaper] else []) ++
    (if sec.feature = updateFeature && phase = .system && sec.disablesUpdates then
      [.hardening]
    else [])

/-- The body of a section. -/
def draftBody (sec : ChoiceSection) (settings : List Setting) (phase : Phase) :
    Draft Block Unit := do
  let pairs := sec.kept settings
  Draft.each (draftChoice phase) pairs
  Draft.write (taskBlocks phase pairs ++ sec.fixedBlocks phase)

/-- Whether a section is written in a phase. -/
def appears (sec : ChoiceSection) (settings : List Setting) (phase : Phase) :
    Except Misfit Bool := do
  let pairs := sec.defined settings
  if (sec.kept settings).isEmpty then return false
  if ← anyEntersPhase phase pairs then return true
  if phase = .user then return false
  return !(← anyEntersPhase phase.opposite pairs)

/-- The title of a section: its label, or else the feature. -/
def titleText (sec : ChoiceSection) (label : Option String) : String :=
  let label := label.getD ""
  Text.upper (if label = "" then sec.feature ++ " Settings" else label)

/-- The section of a feature in one phase; the value says whether it was written. -/
def draft (sec : ChoiceSection) (settings : List Setting) (phase : Phase)
    (label : Option String) : Draft Block Bool := do
  Draft.report (sec.lookupNotices settings)
  if ← Draft.lift (sec.appears settings phase) then
    Draft.write [.title (sec.titleText label)]
    let body := sec.draftBody settings phase
    body
    Draft.report (if body.items.isEmpty then [.sectionEmpty sec.feature phase] else [])
    return true
  else return false

end ChoiceSection

/-! ## Groups -/

/-- The section of a feature, if it is included and known; the value counts sections written. -/
def draftSection (catalog : Catalog) (phase : Phase) (s : ChoiceSection) : Draft Block Nat :=
  if !s.isIncluded then return 0
  else
    match catalog.settings? s.feature with
    | none => do
      Draft.report [.featureUnknown s.feature]
      return 0
    | some settings => do
      let written ← s.draft settings phase (some (catalog.displayName s.feature))
      return if written then 1 else 0

/-- Sections in order. -/
def draftSections (catalog : Catalog) (phase : Phase) : List ChoiceSection → Draft Block Nat
  | [] => return 0
  | s :: ss => do
    let first ← draftSection catalog phase s
    let rest ← draftSections catalog phase ss
    return first + rest

/-- The sections of a group. -/
def ChoiceGroup.draft (g : ChoiceGroup) (catalog : Catalog) (phase : Phase) :
    Draft Block Nat := do
  let written ← draftSections catalog phase g.sections
  Draft.report [.groupWritten g.name written phase]
  return written

/-- The sections of all groups that have any. -/
def draftGroups (catalog : Catalog) (phase : Phase) : List ChoiceGroup → Draft Block Nat
  | [] => return 0
  | g :: gs => do
    let first ← if g.sections.isEmpty then pure 0 else g.draft catalog phase
    let rest ← draftGroups catalog phase gs
    return first + rest

end Provision
