import Provision.Machine.Basic
import Provision.Registry.Literal
import Provision.Text.Utf8

/-!
# Checking a script

* `Checker`: what accepts or refuses a finished script.
* `Checker.diagnostics`: the findings in the output of the parser.
* `Checker.verdict`: what the end of the parser means for the script.
* `Checker.powerShell`: the check by a local PowerShell, which parses the script and runs none of
  it.
-/

namespace Provision

/-- What accepts a script, or fails. -/
abbrev Checker (σ : Type) := String → Action σ Unit

namespace Checker

/-- The executables that are tried if none is asked for. -/
def hosts : List String := ["pwsh", "powershell"]

/-- How many seconds the parser may take if nothing else is asked for. -/
def usualLimit : Int := 60

/-- What PowerShell runs to parse the script at a path. -/
def parseCommand (path : String) : String :=
  "$errors = $null\n" ++
  "$null = [System.Management.Automation.Language.Parser]::ParseFile('" ++ Literal.escape path ++
    "', [ref]$null, [ref]$errors)\n" ++
  "if ($errors.Count -gt 0) \x7b\n" ++
  "    foreach ($e in $errors) \x7b\n" ++
  "        Write-Output (\"PARSE_ERROR: line \x7b0\x7d: \x7b1\x7d\" -f " ++
    "$e.Extent.StartLineNumber, $e.Message)\n" ++
  "    \x7d\n" ++
  "    exit 1\n" ++
  "\x7d\n" ++
  "exit 0\n"

/-- What marks a finding in the output of the parser. -/
def marker : String := "PARSE_ERROR:"

/-- The finding in a line. -/
def diagnostic? (line : String) : Option String :=
  let cs := (Text.trim line).toList
  if Text.startsWith marker.toList cs then
    some (Text.trim (String.ofList (cs.drop marker.toList.length)))
  else none

/-- The findings in the output of the parser. -/
def diagnostics (output : String) : List String := (Text.lines output).filterMap diagnostic?

/-- The lines of a text that are not blank, without the blanks at their ends. -/
def nonBlankLines (text : String) : List String :=
  ((Text.lines text).map Text.trim).filter (· != "")

/-- The wording of a refusal. -/
def refusal (found : List String) : String :=
  "Script validation failed with " ++ toString found.length ++ " parse error(s)"

/-- What the parser's output and exit status mean for a script: without findings a status other than
zero is explained by the error output. -/
def verdict (output errors : String) (status : Int) : Except Failure Unit :=
  let found := diagnostics output
  if status = 0 ∧ found = [] then .ok ()
  else
    let shown := if found = [] then nonBlankLines errors else found
    .error (.badSyntax (refusal shown) shown)

/-- The executable to run: the one asked for, or the first that is there. -/
def host? (m : Machine) (executable : Option String) : Except HostProblem String :=
  let usual : Except HostProblem String :=
    match hosts.findSome? fun name => (m.program? name).filter (· != "") with
    | some found => .ok found
    | none => .error .noHost
  match executable with
  | none => usual
  | some name =>
    if name = "" then usual
    else
      match m.program? name with
      | some found => .ok found
      | none => .error (.executableMissing name)

/-- Lets a local PowerShell parse a script. -/
def powerShell (executable : Option String) (limit : Int) : Checker Machine := fun script => do
  let m ← Action.look
  let found ← Action.ofExcept ((host? m executable).mapError Failure.unchecked)
  let some content := Text.marked? script | Action.fail .unencodable
  Action.report [.parserStarted m.scratch found]
  let command := [found, "-NoProfile", "-NonInteractive", "-Command", parseCommand m.scratch]
  match ← Machine.launch ⟨command, limit, some content⟩ with
  | .timedOut => Action.fail (.unchecked (.timedOut limit))
  | .notFound reason => Action.fail (.unchecked (.notStarted found reason))
  | .refused reason => Action.fail (.unchecked (.notStarted found reason))
  | .broken fault => Action.fail fault.failure
  | .finished output errors status =>
    Action.ofExcept (verdict output errors status)
    Action.report [.parserSatisfied]

end Checker

end Provision
