import Provision.Assembly.Section
import Provision.Part.AppRemoval
import Provision.Part.PowerSection
import Provision.Part.StartMenu

/-!
# Assembling the script

* `Assembler`: the catalogue and the paths that a script is made for.
* `Assembler.systemPhase`, `Assembler.userPhase`: the bodies of the two phases.
* `Assembler.assemble`: the whole script, with the counters of what went into it.

The counters and notices of what was done before a failure are kept.
-/

namespace Provision

/-- What went into a script. -/
structure Tally where
  systemSections : Nat
  userSections : Nat
  powerSettings : Nat
  removal : Bool
deriving DecidableEq, Repr

/-- Nothing yet. -/
def Tally.empty : Tally := ⟨0, 0, 0, false⟩

/-- The body of a phase. -/
structure PhaseBody where
  /-- What is written before the sections. -/
  before : List Step
  /-- The blocks of the sections. -/
  blocks : List Block
  /-- What is written after the sections. -/
  after : List Step

/-- The steps that write the body of a phase. -/
def PhaseBody.steps (b : PhaseBody) : List Step := b.before ++ Block.allSteps b.blocks ++ b.after

/-- How far the drafting of something came. -/
structure Assembly (α : Type) where
  outcome : Except Failure α
  tally : Tally
  notices : List Notice

/-- What a script is made for. -/
structure Assembler where
  catalog : Catalog
  scriptPath : String
  logPath : String

namespace Assembler

/-- The feature of power settings. -/
def powerFeature : String := "power"

/-- An assembler with the usual paths. -/
def ofCatalog (catalog : Catalog) : Assembler :=
  ⟨catalog, Opening.defaultScriptPath, Opening.defaultLogPath⟩

/-- The power plan that a configuration asks for. -/
def plan? (config : Configuration) : Option PlanChoice :=
  match config.optimize.find? powerFeature with
  | none => none
  | some sec => if sec.isIncluded then (sec.find? powerPlanSetting).bind Choice.plan? else none

/-- The power values for a snapshot. -/
def powerValues (a : Assembler) (snapshot : Snapshot) : Draft PowerValue Unit :=
  match a.catalog.settings? powerFeature with
  | none => .write []
  | some settings =>
    if settings.isEmpty then .write []
    else collectReadings settings snapshot.readings snapshot.hasBattery

/-- What removes apps, if there is anything to remove. -/
def removalSection (config : Configuration) : Option (List Step) × List Notice :=
  if config.removals.isEmpty then (none, []) else Removal.section? config.removals

/-- What is written after the sections of the system phase. -/
def systemEnd (a : Assembler) : List Step :=
  StartMenu.layout ++ Logon.task a.scriptPath ++ Workspace.placeholder "SYSTEM WIDE"

/-- The body of the system phase. -/
def systemPhase (a : Assembler) (config : Configuration) (snapshot : Snapshot) :
    Assembly PhaseBody :=
  let (removal?, removalNotices) := removalSection config
  let tally := { Tally.empty with removal := removal?.isSome }
  let values := a.powerValues snapshot
  let notices := removalNotices ++ values.notices
  match values.outcome with
  | .error e => ⟨.error e, tally, notices⟩
  | .ok () =>
    match PowerSection.steps? (plan? config) values.items with
    | .error m => ⟨.error (.misfit m), tally, notices⟩
    | .ok power? =>
      let tally := { tally with powerSettings := values.items.length }
      let sections := draftGroups a.catalog .system config.groups
      let notices := notices ++ sections.notices
      match sections.outcome with
      | .error e => ⟨.error e, tally, notices⟩
      | .ok written =>
        ⟨.ok ⟨Workspace.scriptsFolder ++ removal?.getD [] ++ power?.getD [], sections.items,
            a.systemEnd⟩,
          { tally with systemSections := written }, notices⟩

/-- The body of the user phase: its sections stand under the condition that the user has not had
them yet. -/
def userPhase (a : Assembler) (config : Configuration) : Assembly PhaseBody :=
  let sections := draftGroups a.catalog .user config.groups
  match sections.outcome with
  | .error e => ⟨.error e, Tally.empty, sections.notices⟩
  | .ok written =>
    ⟨.ok ⟨[], sections.items, Workspace.placeholder "USER SPECIFIC" ++ Logon.marker⟩,
      { Tally.empty with userSections := written }, sections.notices⟩

/-- The steps of the system phase. -/
def systemSteps (body : PhaseBody) : List Step := body.steps

/-- The steps of the user phase. -/
def userSteps (body : PhaseBody) : List Step :=
  Logon.prologue ++
    [.line "if (-not $alreadyApplied) \x7b", .indented 1 body.steps, .line "\x7d"] ++
    Logon.epilogue

/-- The steps of the whole script. -/
def documentSteps (a : Assembler) (system user : PhaseBody) : List Step :=
  Opening.header a.logPath ++ Opening.logging a.logPath ++ Opening.helpers ++
    [.blank,
      .line "if (-not $UserCustomizations) \x7b",
      .indented 1 [.extend 0 (systemSteps system)],
      .line "\x7d",
      .blank,
      .line "if ($UserCustomizations) \x7b",
      .indented 1 [.extend 0 (userSteps user)],
      .line "\x7d"] ++
    Opening.footer

/-- The whole script. -/
def assemble (a : Assembler) (config : Configuration) (snapshot : Snapshot) : Assembly String :=
  let system := a.systemPhase config snapshot
  match system.outcome with
  | .error e => ⟨.error e, system.tally, system.notices⟩
  | .ok systemBody =>
    let user := a.userPhase config
    let notices := system.notices ++ user.notices
    match user.outcome with
    | .error e => ⟨.error e, system.tally, notices⟩
    | .ok userBody =>
      ⟨.ok (Step.render (a.documentSteps systemBody userBody)),
        { system.tally with userSections := user.tally.userSections }, notices⟩

end Assembler

end Provision
