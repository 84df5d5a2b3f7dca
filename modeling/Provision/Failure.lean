import Provision.Problem

/-!
# Why an operation ends without a result

* `Failure`: the causes, from a refused document to a fault of the system.
* `Failure.ofProblem`: the failure that a problem is.
* `Failure.message?`: the wording of the failures that the program reports itself.
* `Failure.compilationMessage?`: the wording of those that are no fault of a document.
-/

namespace Provision

/-- Why the power settings of this machine could not be read, or a script not be made. -/
inductive Breakdown where
  | executableMissing (executable : String)
  | exitStatus (arguments : List String) (status : Int)
  | timedOut (arguments : List String) (limit : Int)
  | reported (message : String)

/-- The wording of a breakdown. -/
def Breakdown.message : Breakdown → String
  | executableMissing executable =>
    executable ++ " not found; compile with a power snapshot on non-Windows hosts"
  | exitStatus arguments status =>
    "powercfg " ++ Text.join " " arguments ++ " failed with exit code " ++ toString status
  | timedOut arguments limit =>
    "powercfg " ++ Text.join " " arguments ++ " timed out after " ++ toString limit ++ "s"
  | reported message => message

/-- Why no host could check the syntax of a script. -/
inductive HostProblem where
  | executableMissing (executable : String)
  | noHost
  | timedOut (limit : Int)
  | notStarted (executable reason : String)
  | reported (message : String)

/-- The wording of a host problem. -/
def HostProblem.message : HostProblem → String
  | executableMissing executable => "PowerShell executable not found: " ++ executable
  | noHost =>
    "No PowerShell host found (tried pwsh, powershell). Install PowerShell 7 " ++
      "or compile with --skip-validation."
  | timedOut limit => "PowerShell parser timed out after " ++ toString limit ++ "s"
  | notStarted executable reason => "Failed to start " ++ executable ++ ": " ++ reason
  | reported message => message

/-- A fault of the file system or of a process start. -/
inductive SystemFault where
  | notFound
  | isDirectory
  | notDirectory
  | exists
  /-- A name on the way is longer than the file system allows. -/
  | nameTooLong
  /-- A path holds the null character. -/
  | nullCharacter
  | other
deriving DecidableEq, Repr

/-- Why an operation ends without a result. -/
inductive Failure where
  /-- A document or an option is refused. -/
  | problem (p : Problem)
  /-- The script could not be made. -/
  | breakdown (b : Breakdown)
  /-- The script was made and its syntax is wrong. -/
  | badSyntax (message : String) (diagnostics : List String)
  /-- The script was made and could not be checked. -/
  | unchecked (h : HostProblem)
  /-- A value cannot serve where it stands. -/
  | misfit (m : Misfit)
  /-- A file is no text. -/
  | undecodable
  /-- A text has no encoding. -/
  | unencodable
  /-- A document is nested too deep, or its parts define each other. -/
  | endless
  /-- The system failed. -/
  | fault (f : SystemFault)

/-- The failure that a problem is; one that cannot be worded is a misfit of the number in it. -/
def Failure.ofProblem (p : Problem) : Failure :=
  if p.isWritable then .problem p else .misfit .wrongContent

/-- The wording of a failure of the compilation itself, which no document is to blame for. -/
def Failure.compilationMessage? : Failure → Option String
  | breakdown b => some b.message
  | badSyntax message _ => some message
  | unchecked h => some h.message
  | _ => none

/-- The wording of a failure that the program reports itself. -/
def Failure.message? : Failure → Option String
  | problem p => some p.message
  | breakdown b => some b.message
  | badSyntax message _ => some message
  | unchecked h => some h.message
  | _ => none

end Provision
