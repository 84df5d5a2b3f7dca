import Provision.Journal.Entry
import Provision.Phase
import Provision.Value.Text

/-!
# What the program reports

* `Notice`: everything the program reports on its way, by cause.
* `Notice.isWritable`: whether it has a wording; numbers with too many digits have none.
* `Notice.entry`: the call on a logger that reports it.
-/

namespace Provision

/-- The stages of a compilation that are announced. -/
inductive Stage where
  | readingPower
  | detectingHardware
  | assembling
  | skippingValidation
  | validating
deriving DecidableEq, Repr

/-- How many stages a compilation counts. -/
def Stage.total : Int := 4

/-- The number and the announcement of a stage. -/
def Stage.announcement : Stage → Int × String
  | readingPower => (1, "Reading power configuration...")
  | detectingHardware => (2, "Detecting hardware...")
  | assembling => (3, "Assembling script...")
  | skippingValidation => (4, "Skipping syntax validation...")
  | validating => (4, "Validating script syntax...")

/-- Something that is reported. -/
inductive Notice where
  | stage (s : Stage)
  | catalogLoaded (features settings : Nat)
  | groupLoaded (group : String) (features : Nat)
  | removalsLoaded (items : Nat)
  | snapshotLoaded (settings : Nat) (battery : Bool)
  | noLiveData
  | planUnknown
  | planActive (name guid : String)
  | batteryPresent (battery : Bool)
  | commandRun (command : List String)
  | settingsRead (settings : Nat) (plan : String)
  | batteryQueryFailed (reason : String)
  | batteryOutputOdd (output : String)
  | batteriesFound (count : Int)
  | featureUnknown (feature : String)
  | settingUnknown (setting feature : String)
  | settingIdle (setting : String)
  | sectionEmpty (feature : String) (phase : Phase)
  | groupWritten (group : String) (sections : Nat) (phase : Phase)
  | removalNameless (item : String)
  | removalsSorted (packages capabilities features : Nat) (edge oneDrive : Bool)
  | notByte (found : Value) (path name : String)
  | choiceMissing (setting : String)
  | tableMissing (setting : String)
  | indexUnlisted (index : Int) (setting : String)
  | valueUnmatched (setting : String) (key : Value)
  | brightnessGated (setting : String)
  | batteryGated (setting : String)
  | readingMissing (setting guid : String)
  | readingsCollected (count : Nat)
  | assembled (lines : Nat)
  | validationSkipped
  | validationFailed (message : String)
  | compiled
  | scriptWritten (path : String)
  | parserStarted (script executable : String)
  | parserSatisfied

/-- The word for a truth value in a message. -/
def flagText (b : Bool) : String := (Value.bool b).text

/-- Whether the wording of a notice can be written. -/
def Notice.isWritable : Notice → Bool
  | notByte found _ _ => found.isWritable
  | indexUnlisted index _ => Numeral.fits index
  | valueUnmatched _ key => key.isWritable
  | _ => true

/-- The call on a logger that reports a notice. -/
def Notice.entry : Notice → Entry
  | stage s => .step s.announcement.1 Stage.total s.announcement.2
  | catalogLoaded features settings =>
    .note .verbose "CONFIG" ("Loaded catalog: " ++ toString features ++ " feature(s), " ++
      toString settings ++ " setting(s)")
  | groupLoaded group features =>
    .note .verbose "CONFIG" (group ++ ": " ++ toString features ++ " feature(s)")
  | removalsLoaded items =>
    .note .verbose "CONFIG" ("Windows apps: " ++ toString items ++ " item(s)")
  | snapshotLoaded settings battery =>
    .note .verbose "CONFIG" ("Loaded power snapshot: " ++ toString settings ++
      " setting(s), battery=" ++ flagText battery)
  | noLiveData =>
    .note .warning "POWER" ("Not running on Windows and no power snapshot given; " ++
      "power values will not be baked into the script")
  | planUnknown =>
    .note .warning "POWER" "Could not determine the active power plan; no live values"
  | planActive name guid =>
    .note .verbose "POWER" ("Active power plan: " ++ name ++ " (" ++ guid ++ ")")
  | batteryPresent battery =>
    .note .verbose "HARDWARE" ("Battery present: " ++ flagText battery)
  | commandRun command => .note .debug "POWER" ("Running: " ++ Text.join " " command)
  | settingsRead settings plan =>
    .note .verbose "POWER" ("Read " ++ toString settings ++ " power setting(s) from plan " ++ plan)
  | batteryQueryFailed reason =>
    .note .warning "HARDWARE" ("Battery detection failed: " ++ reason)
  | batteryOutputOdd output =>
    .note .warning "HARDWARE" ("Unexpected battery query output: " ++ Text.quoted output)
  | batteriesFound count => .note .verbose "HARDWARE" ("Batteries detected: " ++ toString count)
  | featureUnknown feature =>
    .note .warning "FEATURE" ("Could not find setting definitions for feature: " ++ feature)
  | settingUnknown setting feature =>
    .note .warning "FEATURE" ("Could not find setting definition for: " ++ setting ++
      " (feature " ++ feature ++ ")")
  | settingIdle setting =>
    .note .warning "FEATURE" ("Setting " ++ setting ++ " has no targets and produces no output")
  | sectionEmpty feature phase =>
    .note .warning "FEATURE" ("Feature " ++ feature ++ " produced no statements for the " ++
      phase.name ++ " phase")
  | groupWritten group sections phase =>
    .note .verbose "FEATURE" (group ++ ": " ++ toString sections ++ " section(s) for " ++
      phase.name ++ " phase")
  | removalNameless item =>
    .note .warning "APPS" ("Removal item " ++ item ++ " has no package name; skipped")
  | removalsSorted packages capabilities features edge oneDrive =>
    .note .verbose "APPS" (toString packages ++ " package(s), " ++ toString capabilities ++
      " capability(ies), " ++ toString features ++ " feature(s), edge=" ++ flagText edge ++
      ", onedrive=" ++ flagText oneDrive)
  | notByte found path name =>
    .note .warning "EMIT" ("Byte patch value " ++ found.shown ++ " for " ++ path ++ "\\" ++ name ++
      " is not a byte; writing 0x00")
  | choiceMissing setting =>
    .note .warning "RESOLVE" ("Selection " ++ setting ++ " has no selected index or custom values")
  | tableMissing setting =>
    .note .warning "RESOLVE" ("Selection " ++ setting ++ " has no value mappings in the catalog")
  | indexUnlisted index setting =>
    .note .warning "RESOLVE" ("Index " ++ toString index ++ " is not in the value table of " ++
      setting ++ "; setting skipped")
  | valueUnmatched setting key =>
    .note .debug "RESOLVE" (setting ++ ": value " ++ key.shown ++ " matches no target")
  | brightnessGated setting =>
    .note .verbose "POWER" ("Skipping " ++ setting ++ ": brightness gated")
  | batteryGated setting =>
    .note .verbose "POWER" ("Skipping " ++ setting ++ ": no battery present")
  | readingMissing setting guid =>
    .note .debug "POWER" ("No AC/DC values for " ++ setting ++ " (" ++ guid ++ ")")
  | readingsCollected count =>
    .note .verbose "POWER" ("Collected " ++ toString count ++ " power setting value(s)")
  | assembled lines =>
    .note .verbose "ASSEMBLE" ("Script assembled: " ++ toString lines ++ " line(s)")
  | validationSkipped => .note .warning "VALIDATE" "Syntax validation skipped"
  | validationFailed message => .note .error "VALIDATE" message
  | compiled => .note .verbose "COMPILE" "Script compiled successfully"
  | scriptWritten path => .note .verbose "COMPILE" ("Wrote script: " ++ path)
  | parserStarted script executable =>
    .note .debug "VALIDATE" ("Parsing " ++ script ++ " with " ++ executable)
  | parserSatisfied =>
    .note .verbose "VALIDATE" "Script validation passed - no parse errors found"

end Provision
