import Provision.Command.Session

/-!
# Machines for a command line

* `Request.paths`: the paths that a request may read or write.
* `Machine.ofFiles`: a machine with the given files, on which no other program can be started.
* `Machine.written`: the files that a session has written.
-/

namespace Provision

/-- The paths that a request may read or write. -/
def Request.paths (folder : List String) : Request → List Path
  | .compile r =>
    let o := compileOptions folder (r.catalog.getD "") r
    [o.config, o.catalog] ++ o.snapshot.toList ++ o.output.toList
  | .validate config catalog _ => [.ofText config] ++ catalog.toList.map .ofText
  | _ => []

/-- The places on the way to a place, and the place itself. -/
def Path.waysTo (place : List String) : List (List String) :=
  (List.range place.length).map fun n => place.take (n + 1)

/-- A machine with the given files, on which no other program can be started. -/
def Machine.ofFiles (files : FileTree) (folder : List String) (isWindows : Bool) : Machine where
  files := files
  folder := folder
  scratch := ""
  isWindows := isWindows
  programs := []
  ending := fun _ l => .notFound (l.command.headD "")
  launches := []

/-- The files of a machine that were not the same before. -/
def Machine.written (before after : Machine) : List (List String × List UInt8) :=
  after.files.files.filter fun f => before.files.find? f.1 != some (.file f.2)

end Provision
