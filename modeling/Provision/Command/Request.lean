import Provision.Command.Grammar

/-!
# Requests

* `Request`: what the program can be asked for.
* `Request.ofArguments`: the request of a command line.
-/

namespace Provision

/-- What a compilation is asked for on the command line. -/
structure CompileRequest where
  config : String
  /-- The catalogue, unless its option came without a value. -/
  catalog : Option String
  output : String
  snapshot : Option String
  backend : Option String
  /-- Whether the option for a backend came without a value. -/
  lacksBackend : Bool
  powerShell : Option String
  skipsValidation : Bool
  verbose : Bool
  debug : Bool
deriving DecidableEq, Repr

/-- What the program is asked for. -/
inductive Request where
  | compile (r : CompileRequest)
  | validate (config : String) (catalog : Option String) (verbose : Bool)
  | showVersion
  | showHelp
deriving DecidableEq, Repr

namespace Request

/-- The program's name. -/
def program : String := "winhance-unattend"

/-- The program's version. -/
def version : String := "0.1.0"

/-- The name of the script if no other is asked for. -/
def usualOutput : String := "Winhancements.ps1"

/-- The option that shows help. -/
def help : CommandOption := ⟨["-h", "--help"], .halt, false⟩

/-- The option that names the catalogue. -/
def catalog : CommandOption := ⟨["--catalog"], .value [], true⟩

/-- The option to say more. -/
def verbose : CommandOption := ⟨["-v", "--verbose"], .flag, false⟩

/-- What comes before the command. -/
def outer : Grammar where
  program := program
  options := [help, ⟨["--version"], .halt, false⟩]
  operand := "command"
  choices := ["compile", "validate"]
  takesRest := true

/-- What a compilation takes, with the backends there are. -/
def compileGrammar (backends : List String) : Grammar where
  program := program ++ " compile"
  options := [
    help,
    catalog,
    ⟨["-o", "--output"], .value [], false⟩,
    ⟨["--power-snapshot"], .value [], false⟩,
    ⟨["--backend"], .value backends, false⟩,
    ⟨["--powershell"], .value [], false⟩,
    ⟨["--skip-validation"], .flag, false⟩,
    verbose,
    ⟨["-d", "--debug"], .flag, false⟩]
  operand := "config"
  choices := []
  takesRest := false

/-- What a validation takes. -/
def validateGrammar : Grammar where
  program := program ++ " validate"
  options := [help, catalog, verbose]
  operand := "config"
  choices := []
  takesRest := false

/-- The operand of a command. -/
def operandOf (p : Parsed) : String := (p.operand.getD []).headD ""

/-- An empty text stands for nothing. -/
def nonEmpty? (s : Option String) : Option String := s.filter (· != "")

/-- The request for a compilation. -/
def compileOf (p : Parsed) : Request :=
  .compile {
    config := operandOf p
    catalog := p.value? "--catalog"
    output := (nonEmpty? (p.value? "--output")).getD usualOutput
    snapshot := nonEmpty? (p.value? "--power-snapshot")
    backend := p.value? "--backend"
    lacksBackend := p.last? "--backend" == some none
    powerShell := p.value? "--powershell"
    skipsValidation := p.has "--skip-validation"
    verbose := p.has "--verbose"
    debug := p.has "--debug" }

/-- The request for a validation. -/
def validateOf (p : Parsed) : Request :=
  .validate (operandOf p) (p.value? "--catalog") (p.has "--verbose")

/-- What was asked for instead of a command. -/
def halted : Halt → Except Misuse Request
  | .asked o => .ok (if o = help then .showHelp else .showVersion)
  | .misuse m => .error m

/-- The request of a command line, as far as it can be read. -/
def read (backends : List String) (arguments : List String) : Except Halt Request := do
  let whole ← outer.read arguments
  let (command, rest) := ((whole.operand.getD []).headD "", (whole.operand.getD []).tail)
  let finish (p : Parsed) (r : Request) : Except Halt Request :=
    let extras := whole.extras ++ p.extras
    if extras.isEmpty then .ok r
    else outer.refuse ("unrecognized arguments: " ++ Text.join " " extras)
  if command = "compile" then
    let p ← (compileGrammar backends).read rest
    finish p (compileOf p)
  else
    let p ← validateGrammar.read rest
    finish p (validateOf p)

/-- The request of a command line. -/
def ofArguments (backends : List String) (arguments : List String) : Except Misuse Request :=
  match read backends arguments with
  | .ok r => .ok r
  | .error h => halted h

end Request

end Provision
