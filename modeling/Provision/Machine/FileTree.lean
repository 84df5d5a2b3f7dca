import Provision.Failure
import Provision.Machine.Path
import Provision.Table

/-!
# File trees

* `FileTree`: what stands at the places below a root.
* `FileTree.locate`: the place that a path leads to; all on its way have to be folders.
* `FileTree.has`, `FileTree.read`: whether anything stands where a path leads, and the file there.
* `FileTree.makeFolders`, `FileTree.write`: making the folders on a path, and a file.
-/

namespace Provision

/-- What stands at a place. -/
inductive FileNode where
  | folder
  | file (content : List UInt8)
deriving DecidableEq, Repr

/-- What stands at the places below a root, by the names that lead there. -/
structure FileTree where
  nodes : List (List String × FileNode)
deriving DecidableEq, Repr

namespace FileTree

/-- Nothing but the root. -/
def empty : FileTree := ⟨[]⟩

/-- What stands at a place; the root is a folder. -/
def find? (t : FileTree) (place : List String) : Option FileNode :=
  if place.isEmpty then some .folder else Table.get? (· == place) t.nodes

/-- Puts something at a place, instead of what stands there. -/
def put (t : FileTree) (place : List String) (n : FileNode) : FileTree :=
  ⟨Table.put (· == place) place n t.nodes⟩

/-- Puts a file at a place, and folders on the way to it. -/
def putFile (t : FileTree) (place : List String) (content : List UInt8) : FileTree :=
  let ways := (List.range place.length).map fun n => place.take n
  (ways.foldl (fun t way => t.put way .folder) t).put place (.file content)

/-- How many bytes a name may have. -/
def maxName : Nat := 255

/-- How many bytes a path may have. -/
def maxPath : Nat := 4095

/-- Follows names from a place; every place but the last has to be a folder. -/
def walk (t : FileTree) (place : List String) : List String → Except SystemFault (List String)
  | [] => .ok place
  | name :: names =>
    match t.find? place with
    | none => .error .notFound
    | some (.file _) => .error .notDirectory
    | some .folder =>
      if name.utf8ByteSize > maxName then .error .nameTooLong
      else walk t (Path.step place name) names

/-- The place that a path leads to. -/
def locate (t : FileTree) (folder : List String) (p : Path) : Except SystemFault (List String) :=
  if p.hasNull then .error .nullCharacter
  else if p.text.utf8ByteSize > maxPath then .error .nameTooLong
  else t.walk (p.start folder) p.names

/-- Whether anything stands where a path leads. A name that is too long is a fault. -/
def has (t : FileTree) (folder : List String) (p : Path) : Except SystemFault Bool :=
  match t.locate folder p with
  | .ok place => .ok (t.find? place).isSome
  | .error .nameTooLong => .error .nameTooLong
  | .error _ => .ok false

/-- The content of the file that a path leads to. -/
def read (t : FileTree) (folder : List String) (p : Path) : Except SystemFault (List UInt8) := do
  match t.find? (← t.locate folder p) with
  | some (.file content) => return content
  | some .folder => throw .isDirectory
  | none => throw .notFound

/-- Makes the folder that a path leads to, unless it is there; its parent has to be. -/
def makeFolder (t : FileTree) (folder : List String) (p : Path) : Except SystemFault FileTree := do
  let place ← t.locate folder p
  match t.find? place with
  | some .folder => return t
  | some (.file _) => throw .exists
  | none => return t.put place .folder

/-- Makes the folders on a path whose names are given from the last to the first. -/
def makeFoldersFrom (t : FileTree) (folder : List String) (root : String) :
    List String → Except SystemFault FileTree
  | [] => t.makeFolder folder ⟨root, []⟩
  | name :: names =>
    match t.makeFolder folder ⟨root, (name :: names).reverse⟩ with
    | .error .notFound => do
      let t ← makeFoldersFrom t folder root names
      t.makeFolder folder ⟨root, (name :: names).reverse⟩
    | r => r

/-- Makes the folder that a path leads to, and those on the way that are missing. -/
def makeFolders (t : FileTree) (folder : List String) (p : Path) : Except SystemFault FileTree :=
  t.makeFoldersFrom folder p.root p.names.reverse

/-- Writes the file that a path leads to. -/
def write (t : FileTree) (folder : List String) (p : Path) (content : List UInt8) :
    Except SystemFault FileTree := do
  let place ← t.locate folder p
  match t.find? place with
  | some .folder => throw .isDirectory
  | _ => return t.put place (.file content)

/-- The files, with their places. -/
def files (t : FileTree) : List (List String × List UInt8) :=
  t.nodes.filterMap fun n =>
    match n.2 with
    | .file content => some (n.1, content)
    | .folder => none

end FileTree

end Provision
