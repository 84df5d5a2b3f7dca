import Provision.Catalog.Reader
import Provision.Choice.Reader
import Provision.Document.Reader
import Provision.Machine.Basic
import Provision.Power.Snapshot

/-!
# Loading documents

* `Document.entries`: the entries of a document, which has to be a map.
* `Document.load`: the same for the file at a path.
* `loadCatalog`, `loadConfiguration`, `loadSnapshot`: the three kinds of documents.
-/

namespace Provision

/-- The failure that a fault of the document at a path is. -/
def Document.failure (p : Path) : Document.DocumentFault → Failure
  | .undecodable => .undecodable
  | .malformed => .problem (.malformed p.text)
  | .misfit m => .misfit m
  | .endless => .endless

/-- The entries of the document in a file that a path names, of which this was read. -/
def Document.entries (p : Path) : Except Document.DocumentFault Value → Except Failure Entries
  | .error f => .error (Document.failure p f)
  | .ok v =>
    match v.opened with
    | .null => .error (.problem (.emptyFile p.text))
    | .map es => .ok es
    | _ => .error (.problem (.topLevelNotMap p.text))

/-- The entries of the document at a path. -/
def Document.load (p : Path) : Action Machine Entries := do
  let m ← Action.look
  match ← Machine.load p with
  | none => Action.fail (.problem (.fileMissing p.text))
  | some bytes => Action.ofExcept (Document.entries p (m.parse bytes))

/-- The result of reading a document. -/
def Document.checked {α : Type} (r : Except Problem α) : Action Machine α :=
  .ofExcept (r.mapError Failure.ofProblem)

/-- The catalogue at a path. -/
def loadCatalog (p : Path) : Action Machine Catalog := do
  let catalog ← Document.checked (Catalog.ofEntries (← Document.load p))
  Action.report [.catalogLoaded catalog.features.length catalog.settingCount]
  return catalog

/-- The configuration at a path. -/
def loadConfiguration (p : Path) : Action Machine Configuration := do
  let config ← Document.checked (Configuration.ofEntries (← Document.load p))
  Action.report
    (config.groups.map (fun g => .groupLoaded g.name g.sections.length) ++
      [.removalsLoaded config.removals.length])
  return config

/-- The power snapshot at a path. -/
def loadSnapshot (p : Path) : Action Machine Snapshot := do
  let snapshot ← Document.checked (Snapshot.ofEntries (← Document.load p))
  Action.report [.snapshotLoaded snapshot.readings.length snapshot.hasBattery]
  return snapshot

end Provision
