import Provision.Command.Request
import Provision.Compilation.Files
import Provision.Inspection
import Provision.Journal.Printer

/-!
# Sessions

* `Request.run`: does what is asked for, and tells the exit status.
* `Session`, `Session.ofArguments`: a whole run of the program on a machine.
-/

namespace Provision

namespace Request

/-- A line across the report. -/
def rule : String := String.ofList (List.replicate 70 '=')

/-- The report on a compilation. -/
def compileReport (c : Compilation) : List String :=
  [rule, "COMPILE RESULTS", rule,
    "Output:            " ++ (c.output.map Path.text).getD "None",
    "System Sections:   " ++ toString c.tally.systemSections,
    "User Sections:     " ++ toString c.tally.userSections,
    "Power Settings:    " ++ toString c.tally.powerSettings,
    "App Removal:       " ++ (if c.tally.removal then "yes" else "no"),
    "Syntax Validated:  " ++ (if c.validated then "yes" else "skipped"),
    "Status:            success",
    rule] ++
  (if c.warnings.isEmpty then []
    else ["", "Warnings (" ++ toString c.warnings.length ++ "):"] ++
      c.warnings.map fun w => "  [WARNING] " ++ w) ++
  ["", "[SUCCESS] Script compiled successfully!"]

/-- The report on a failure, if it is one that the program reports itself. -/
def failureReport? (f : Failure) : Option (List String) :=
  f.message?.map fun message =>
    ("Error: " ++ message) ::
      match f with
      | .badSyntax _ diagnostics => diagnostics.map fun d => "  [X] " ++ d
      | _ => []

/-- The files of a request for a compilation, with full paths except for the snapshot. -/
def compileOptions (folder : List String) (catalog : String) (r : CompileRequest) :
    CompileOptions where
  config := (Path.ofText r.config).resolve folder
  catalog := (Path.ofText catalog).resolve folder
  output := some ((Path.ofText r.output).resolve folder)
  snapshot := r.snapshot.map Path.ofText
  backend := r.backend
  powerShell := r.powerShell
  skipsValidation := r.skipsValidation

/-- The paths of the documents that a request names; a catalogue has to be among them. -/
def requireCatalog (config : String) (catalog : Option String) : Action Machine String := do
  Machine.requirePath config
  match catalog with
  | some text =>
    Machine.requirePath text
    return text
  | none => Action.fail (.misfit .wrongKind)

/-- Compiles files, unless a backend is needed and the option for it came without a value; the
documents are loaded before. -/
def compileAsked (o : CompileOptions) (lacksBackend : Bool) : Action Machine Compilation := do
  if lacksBackend && o.snapshot.isNone then
    let _ ← loadCatalog o.catalog
    let _ ← loadConfiguration o.config
    Action.fail (.misfit .wrongKind)
  else compileFiles o

/-- Compiles and reports. -/
def runCompile (r : CompileRequest) : Action Machine Nat := do
  let catalog ← requireCatalog r.config r.catalog
  Machine.requirePath r.output
  let o := compileOptions (← Action.look).folder catalog r
  Action.say
    ["Compiling configuration: " ++ o.config.text, "Catalog: " ++ o.catalog.text, ""]
  match ← Action.attempt (compileAsked o r.lacksBackend) with
  | .ok c =>
    Action.say (compileReport c)
    return 0
  | .error f =>
    match failureReport? f with
    | some lines =>
      Action.say lines
      return 1
    | none => Action.fail f

/-- A headed list in a report; an empty one is left out. -/
def listing (title mark : String) (items : List String) : List String :=
  if items.isEmpty then []
  else [title ++ " (" ++ toString items.length ++ "):"] ++ items.map (mark ++ ·) ++ [""]

/-- The report on a validation. -/
def validateReport (i : Inspection) : List String :=
  [rule, "VALIDATION RESULTS", rule,
    "Configuration:  " ++ i.config.text,
    "Status:         " ++ Text.upper i.status,
    "Settings:       " ++ toString i.settings,
    ""] ++
  listing "Warnings" "  [WARNING] " i.warnings ++
  listing "Errors" "  [X] " i.errors ++
  [rule, ""] ++
  (if i.isValid then ["[SUCCESS] Configuration is valid!"]
    else ["[FAILED] Configuration validation failed with " ++ toString i.errors.length ++
      " error(s)."])

/-- Validates and reports. -/
def runValidate (config : String) (catalog : Option String) (verbose : Bool) :
    Action Machine Nat := do
  let catalog ← requireCatalog config catalog
  let folder := (← Action.look).folder
  let config := (Path.ofText config).resolve folder
  let catalog := (Path.ofText catalog).resolve folder
  Action.say ["Validating configuration: " ++ config.text, ""]
  let i ← inspectFiles config catalog verbose
  Action.say (validateReport i)
  return if i.isValid then 0 else 1

/-- Does what is asked for, and tells the exit status. -/
def run : Request → Action Machine Nat
  | compile r => runCompile r
  | validate config catalog verbose => runValidate config catalog verbose
  | showVersion => do
    Action.say [program ++ " " ++ version]
    return 0
  | showHelp => return 0

/-- What of the journal is shown. -/
def printer : Request → Printer
  | compile r => .make r.verbose r.debug
  | validate _ _ verbose => .make verbose false
  | _ => .silent

end Request

/-- A run of the program. -/
structure Session where
  /-- The exit status, or the failure that ended the run. -/
  exit : Except Failure Nat
  output : String
  /-- What is wrong about the command line. -/
  complaint : Option String
  machine : Machine

/-- Runs the program on a machine. -/
def Session.ofArguments (arguments : List String) (m : Machine) : Session :=
  match Request.ofArguments Backends.usual.names arguments with
  | .ok r =>
    let t := r.run m
    ⟨t.outcome, r.printer.output t.journal, none, t.machine⟩
  | .error wrong => ⟨.ok 2, "", some (wrong.program ++ ": error: " ++ wrong.message), m⟩

end Provision
