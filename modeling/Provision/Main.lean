import Provision.Command.Host

/-!
# The program

* `main`: runs the program on the files of the running machine.

Other programs are never started, so a script cannot be checked here and live power settings cannot
be read: a compilation needs a snapshot or the static backend, and has to skip the validation.
-/

namespace Provision

/-- What stands at a place of the running machine. -/
def nodeAt (place : List String) : IO (Option FileNode) := do
  let path := (Path.mk "/" place).text
  try
    return some (.file (← IO.FS.readBinFile path).toList)
  catch _ =>
    try
      discard (IO.FS.realPath path)
      return some .folder
    catch _ => return none

/-- What stands at the given places. -/
def treeOf (places : List (List String)) : IO FileTree := do
  let mut tree := FileTree.empty
  for place in places do
    match ← nodeAt place with
    | some n => tree := tree.put place n
    | none => pure ()
  return tree

/-- Writes a file, and makes the folders on the way to it. -/
def writeTo (place : List String) (content : List UInt8) : IO Unit := do
  IO.FS.createDirAll (Path.mk "/" place).parent.text
  IO.FS.writeBinFile (Path.mk "/" place).text ⟨content.toArray⟩

/-- Runs the program on the files that its command line names. -/
def runOn (arguments : List String) : IO UInt32 := do
  let folder := (Path.ofText (← IO.currentDir).toString).names
  let paths := match Request.ofArguments Backends.usual.names arguments with
    | .ok r => r.paths folder
    | .error _ => []
  let tree ← treeOf (paths.flatMap fun p => Path.waysTo (p.place folder))
  let isWindows := (← IO.getEnv "OS") == some "Windows_NT"
  let before := Machine.ofFiles tree folder isWindows
  let session := Session.ofArguments arguments before
  IO.print session.output
  for c in session.complaint do IO.eprintln c
  for f in before.written session.machine do writeTo f.1 f.2
  match session.exit with
  | .ok status => return status.toUInt32
  | .error _ => return 1

end Provision

/-- Runs the program. -/
def main (arguments : List String) : IO UInt32 := Provision.runOn arguments
