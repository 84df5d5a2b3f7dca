import Provision.Compilation.Basic
import Provision.Document.Loading

/-!
# Backends

* `BackendOptions`: the snapshot and the PowerShell a backend may be given.
* `Backend`: what a name stands for: a snapshot, the running machine, or given data.
* `Backends`: backends by name.
* `selectServices`: the services for a compilation.
-/

namespace Provision

/-- What a backend may be given. -/
structure BackendOptions where
  snapshot : Option Path
  powerShell : Option String
deriving DecidableEq, Repr

/-- No options. -/
def BackendOptions.none : BackendOptions := ⟨.none, .none⟩

/-- The services that a backend makes, before they are asked. -/
inductive Provider where
  | fixed (s : Snapshot)
  | live (l : LiveServices)

/-- The services of a provider. -/
def Provider.services : Provider → Services Machine
  | fixed s => .fixed (fun _ m => m) s
  | live l => l.services

/-- What the name of a backend stands for. -/
inductive Backend where
  /-- Answers from a snapshot document, or empty answers. -/
  | static
  /-- Answers from the running machine. -/
  | windows
  /-- The same answers always. -/
  | given (s : Snapshot)

/-- The services that a backend makes under the given options. -/
def Backend.provider (b : Backend) (options : BackendOptions) : Action Machine Provider :=
  match b with
  | static =>
    match options.snapshot with
    | none => pure (.fixed Snapshot.empty)
    | some p => do return .fixed (← loadSnapshot p)
  | windows =>
    let shell := (options.powerShell.filter (· != "")).getD LiveServices.powerShell
    pure (.live ⟨LiveServices.powerTool, LiveServices.hardwareTool shell⟩)
  | given s => pure (.fixed s)

/-- Backends by name, every name once. -/
abbrev Backends := List (String × Backend)

namespace Backends

/-- The backends that are always there. -/
def usual : Backends := [("windows", .windows), ("static", .static)]

/-- Gives a name a backend, instead of the one it has. -/
def register (r : Backends) (name : String) (b : Backend) : Backends :=
  Table.put (· == name) name b r

/-- The names, sorted by code points. -/
def names (r : Backends) : List String := (r.map (·.1)).mergeSort fun a b => !(b < a : Bool)

/-- The services that a name makes. -/
def provider (r : Backends) (name : String) (options : BackendOptions) :
    Action Machine Provider :=
  match Table.get? (· == name) r with
  | some b => b.provider options
  | none => Action.fail (.problem (.backendUnknown name r.names))

end Backends

/-- The services for a compilation: a snapshot comes first, then the backend asked for, then the
running machine if it runs Windows; otherwise nothing is known. -/
def selectServices (snapshot : Option Path) (backend powerShell : Option String) :
    Action Machine Provider := do
  match snapshot, backend with
  | some p, _ => Backends.usual.provider "static" ⟨some p, none⟩
  | none, some name => Backends.usual.provider name ⟨none, powerShell⟩
  | none, none =>
    if (← Action.look).isWindows then Backends.usual.provider "windows" ⟨none, powerShell⟩
    else
      Action.report [.noLiveData]
      Backends.usual.provider "static" .none

end Provision
