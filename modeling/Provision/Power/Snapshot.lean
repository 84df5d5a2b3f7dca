import Provision.Document.Shape
import Provision.Failure
import Provision.Text.Case

/-!
# Power snapshots

* `Plan`, `Reading`, `Snapshot`: the power configuration of a reference machine.
* `Snapshot.ofEntries`, `Snapshot.ofValue`: reading one from a document.
-/

namespace Provision

/-- A power plan. -/
structure Plan where
  guid : String
  name : String
deriving DecidableEq, Repr

/-- The indexes of a power setting on mains and on battery; an absent one is empty. -/
structure Reading where
  ac : Value
  dc : Value

/-- Readings by the GUID of the power setting, in order, every GUID once. -/
abbrev Readings := List (String × Reading)

namespace Readings

/-- Writes a reading: one that is there already is replaced where it stands. -/
def insert (rs : Readings) (guid : String) (r : Reading) : Readings :=
  Table.put (· == guid) guid r rs

/-- The reading of a power setting. -/
def get? (rs : Readings) (guid : String) : Option Reading :=
  Table.get? (· == guid) rs

@[simp] theorem get?_insert_self (rs : Readings) (guid : String) (r : Reading) :
    (rs.insert guid r).get? guid = some r :=
  Table.get?_put_self (by simp) r rs

theorem get?_insert_of_ne (rs : Readings) {guid other : String} (h : other ≠ guid) (r : Reading) :
    (rs.insert guid r).get? other = rs.get? other :=
  Table.get?_put_of_not (fun k hk => by simp_all [Ne.symm h]) (by simp [Ne.symm h]) r rs

/-- Readings written in turn. -/
def ofList (rs : List (String × Reading)) : Readings :=
  rs.foldl (fun acc e => acc.insert e.1 e.2) []

end Readings

/-- The power configuration of a reference machine. -/
structure Snapshot where
  plan : Option Plan
  readings : Readings
  hasBattery : Bool

namespace Snapshot

/-- Nothing known. -/
def empty : Snapshot := ⟨none, [], false⟩

/-- One side of a reading. -/
def sideOfValue (v : Value) (place : String) : Except Problem Value := do
  match ← Shape.integer? v place with
  | some n => return .int n
  | none => return .null

/-- A reading, given as a list of two or as a map. -/
def readingOfValue (v : Value) (place : String) : Except Problem Reading := do
  let (ac, dc) ←
    match v.opened with
    | .map es => pure (Entries.field es "ac", Entries.field es "dc")
    | .list [ac, dc] => pure (ac, dc)
    | _ => throw (.pairExpected place)
  return ⟨← sideOfValue ac (place ++ ".ac"), ← sideOfValue dc (place ++ ".dc")⟩

/-- Readings by GUID in lower case, written in turn. -/
def readingsOfEntries (rs : Readings) : List (Value × Value) → Except Problem Readings
  | [] => .ok rs
  | (guid, pair) :: rest => do
    let guid ← Shape.text guid
    let r ← readingOfValue pair ("settings." ++ guid)
    readingsOfEntries (rs.insert (Text.lower guid) r) rest

/-- The active plan, if one is given; without a name it goes by its GUID. -/
def planOfEntries (es : Entries) : Except Problem (Option Plan) := do
  let guid := es.field "guid"
  if guid.isTruthy then
    let text ← Shape.text guid
    return some ⟨text, ← Shape.textOr (es.field "name") guid⟩
  else return none

/-- A snapshot from the entries of its document. -/
def ofEntries (es : Entries) : Except Problem Snapshot := do
  let plan ← planOfEntries (← Shape.entries (es.field "active_plan") "active_plan")
  let settings ← Shape.entries (es.field "settings") "settings"
  let readings ← readingsOfEntries [] settings
  return {
    plan := plan
    readings := readings
    hasBattery := (es.field "has_battery").isTruthy }

/-- A snapshot from its document, which has to be a map. -/
def ofValue : Value → Except Failure Snapshot
  | .map es => (ofEntries es).mapError Failure.ofProblem
  | _ => .error (.misfit .lacksPart)

end Snapshot

end Provision
