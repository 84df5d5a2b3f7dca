import Provision.Document.Reader
import Provision.Journal.Action
import Provision.Machine.FileTree
import Provision.Machine.Signal
import Provision.Text.Utf8
import Provision.Value.Text

/-!
# The machine

* `Launch`, `Ending`: the start of another program, and how that ends.
* `LaunchFault`: why a command cannot be passed on, or what was written not be read.
* `Machine`: the files of a machine, what reads documents on it, its programs, and how they behave.
* `Machine.launch`: starts a program and waits for its end.
* `Machine.load`, `Machine.save`, `Machine.saveText`: reads a file, and writes one.
-/

namespace Provision

/-- The start of another program. -/
structure Launch where
  command : List String
  /-- How many seconds are waited for its end. -/
  limit : Int
  /-- The content of the file that is handed to it, if there is one. -/
  script : Option (List UInt8)
deriving DecidableEq, Repr

/-- Why a command cannot be passed on to the system, or what a program wrote not be read. -/
inductive LaunchFault where
  /-- The program wrote bytes that are no text. -/
  | undecodable
  /-- A part of the command has no encoding. -/
  | unencodable
  /-- A part of the command holds the null character. -/
  | nullCharacter
deriving DecidableEq, Repr

/-- The failure that such a fault is. -/
def LaunchFault.failure : LaunchFault → Failure
  | undecodable => .undecodable
  | unencodable => .unencodable
  | nullCharacter => .fault .nullCharacter

/-- How the start of a program ends. -/
inductive Ending where
  | finished (output errors : String) (status : Int)
  | notFound (reason : String)
  | refused (reason : String)
  | timedOut
  /-- The program was not started, or it ran and what it wrote is lost. -/
  | broken (fault : LaunchFault)
deriving DecidableEq, Repr

/-- Why a command counts as failed that has to end with status zero. -/
inductive CommandFailure where
  | notFound (reason : String)
  | exitStatus (command : List String) (status : Int)
  | timedOut (command : List String) (limit : Int)
deriving DecidableEq, Repr

/-- A command as it is shown in messages. -/
def commandText (command : List String) : String := (Value.list (command.map Value.str)).shown

/-- How a command ended that failed with a status; a negative one is the signal that ended it. -/
def endingText (status : Int) : String :=
  if status < 0 then
    match Signal.shown? status.natAbs with
    | some signal => "died with " ++ signal
    | none => "died with unknown signal " ++ toString status.natAbs
  else "returned non-zero exit status " ++ toString status

/-- The wording of a failed command. -/
def CommandFailure.message : CommandFailure → String
  | notFound reason => reason
  | exitStatus command status =>
    "Command '" ++ commandText command ++ "' " ++ endingText status ++ "."
  | timedOut command limit =>
    "Command '" ++ commandText command ++ "' timed out after " ++ toString limit ++ " seconds"

/-- A machine. -/
structure Machine where
  files : FileTree
  /-- The place of the current folder. -/
  folder : List String
  /-- Where a script lies while it is checked. -/
  scratch : String
  /-- Whether the machine runs Windows. -/
  isWindows : Bool
  /-- What the reader of documents that is installed makes of the bytes of a file. -/
  parse : List UInt8 → Except Document.DocumentFault Value := Document.ofFile
  /-- The executables found by their names. -/
  programs : List (String × String)
  /-- How a start ends, after the earlier ones. -/
  ending : List Launch → Launch → Ending
  /-- The programs started so far. -/
  launches : List Launch

namespace Machine

/-- The executable with a given name. -/
def program? (m : Machine) (name : String) : Option String :=
  Table.get? (· == name) m.programs

/-- Starts a program and waits for its end. -/
def launch (l : Launch) : Action Machine Ending := fun m =>
  ⟨.ok (m.ending m.launches l), { m with launches := m.launches ++ [l] }, []⟩

/-- The output of a command that has to end with status zero. -/
def output (command : List String) (limit : Int) :
    Action Machine (Except CommandFailure String) := do
  match ← launch ⟨command, limit, none⟩ with
  | .finished output _ status =>
    return if status = 0 then .ok output else .error (.exitStatus command status)
  | .notFound reason => return .error (.notFound reason)
  | .timedOut => return .error (.timedOut command limit)
  | .refused _ => Action.fail (.fault .other)
  | .broken fault => Action.fail fault.failure

/-- The content of a file; nothing stands there if there is none. -/
def load (p : Path) : Action Machine (Option (List UInt8)) := do
  let m ← Action.look
  if ← Action.ofExcept ((m.files.has m.folder p).mapError Failure.fault) then
    return some (← Action.ofExcept ((m.files.read m.folder p).mapError Failure.fault))
  else return none

/-- Goes on only with a path that a file system can know. -/
def requirePath (text : String) : Action Machine Unit :=
  if (Path.ofText text).hasNull then Action.fail (.fault .nullCharacter) else return ()

/-- Replaces the files. -/
def setFiles (r : Except SystemFault FileTree) : Action Machine Unit := do
  let files ← Action.ofExcept (r.mapError Failure.fault)
  Action.change fun m => { m with files := files }

/-- Writes a file, and makes the folders on the way to it. -/
def save (p : Path) (content : List UInt8) : Action Machine Unit := do
  let m ← Action.look
  setFiles (m.files.makeFolders m.folder p.parent)
  let m ← Action.look
  setFiles (m.files.write m.folder p content)

/-- Writes a text to a file, after a byte order mark. A text that cannot be encoded leaves the file
empty. -/
def saveText (p : Path) (text : String) : Action Machine Unit := do
  match Text.marked? text with
  | some content => save p content
  | none =>
    save p []
    Action.fail .unencodable

end Machine

end Provision
