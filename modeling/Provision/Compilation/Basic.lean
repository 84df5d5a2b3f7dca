import Provision.Assembly.Script
import Provision.Compilation.Checker
import Provision.Power.Services

/-!
# Compilation

* `Compilation`: a finished script with what is known about it.
* `Services.snapshot`: the answers of the services, each asked once.
* `compile`: asks the services, assembles the script and has it checked once.

Whatever is reported goes through one collector, so that every warning is reported once; only what
services and checkers report themselves goes past it.
-/

namespace Provision

/-- A finished script. -/
structure Compilation where
  script : String
  /-- The distinct warnings, in order. -/
  warnings : List String
  tally : Tally
  /-- Whether the script was checked. -/
  validated : Bool
  /-- Where the script was written, if it was. -/
  output : Option Path

namespace Compilation

variable {σ : Type}

/-- Reports one notice through the collector. -/
def announce (n : Notice) : Action (Watched σ) Unit := Action.tell [n]

/-- The active plan and its readings; without a plan there are none. -/
def powerState (services : Services σ) : Action (Watched σ) (Option Plan × Readings) := do
  match ← Action.beside services.activePlan with
  | none =>
    announce .planUnknown
    return (none, [])
  | some plan =>
    announce (.planActive plan.name plan.guid)
    return (some plan, ← Action.beside (services.readings plan.guid))

/-- The answers of the services, each asked once. -/
def snapshot (services : Services σ) : Action (Watched σ) Snapshot := do
  let (plan, readings) ← powerState services
  announce (.stage .detectingHardware)
  let battery ← Action.beside services.hasBattery
  announce (.batteryPresent battery)
  return ⟨plan, readings, battery⟩

/-- The script for a snapshot, and what went into it. -/
def draft (catalog : Catalog) (config : Configuration) (s : Snapshot) :
    Action (Watched σ) (String × Tally) := do
  let assembly := (Assembler.ofCatalog catalog).assemble config s
  Action.tell assembly.notices
  let script ← Action.ofExcept assembly.outcome
  announce (.assembled (Text.lines script).length)
  return (script, assembly.tally)

/-- What is reported of a check that failed. -/
def reportFailed (f : Failure) : Action (Watched σ) Unit :=
  match f.compilationMessage? with
  | some message => announce (.validationFailed message)
  | none => pure ()

/-- Has a script checked, if there is a checker, and tells whether it was. -/
def validate (checker? : Option (Checker σ)) (script : String) : Action (Watched σ) Bool := do
  match checker? with
  | none =>
    announce (.stage .skippingValidation)
    announce .validationSkipped
    return false
  | some checker =>
    announce (.stage .validating)
    match ← Action.attempt (Action.beside (checker script)) with
    | .ok () => return true
    | .error f =>
      reportFailed f
      Action.fail f

/-- The warnings collected so far. -/
def warningsSoFar : Action (Watched σ) (List String) := do
  return (← Action.look).collector.warnings

/-- A compilation under a collector. -/
def watchedRun (services : Services σ) (checker? : Option (Checker σ)) (catalog : Catalog)
    (config : Configuration) : Action (Watched σ) Compilation := do
  announce (.stage .readingPower)
  let s ← snapshot services
  announce (.stage .assembling)
  let (script, tally) ← draft catalog config s
  let validated ← validate checker? script
  announce .compiled
  return ⟨script, ← warningsSoFar, tally, validated, none⟩

end Compilation

/-- Compiles a configuration into a script. -/
def compile {σ : Type} (services : Services σ) (checker? : Option (Checker σ)) (catalog : Catalog)
    (config : Configuration) : Action σ Compilation :=
  Action.watched (Compilation.watchedRun services checker? catalog config)

end Provision
