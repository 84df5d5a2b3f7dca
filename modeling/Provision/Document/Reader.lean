import Provision.Document.Cell
import Provision.Document.Node.Merge
import Provision.Document.Node.Reading
import Provision.Document.Scalar
import Provision.Document.Token.Lexer

/-!
# Reading a document

* `Nodes.value`: the value of a node.
* `readDocument`, `ofFile`: the value of a text, or why it has none, and that of a file.

Scalars get their values at once, and collections are filled in the order in which they were met, so
of several faults the one nearest to the root counts, and of those the first.
-/

namespace Provision.Document

/-- What has been made of some nodes. -/
structure Making where
  nodes : Nodes
  /-- How many merge keys there were. -/
  mergeKeys : Nat
  /-- The parts that stand for nodes. -/
  parts : Array (Option Part)
  cells : Cells
  /-- The collections met, each with its number and its node, in order. -/
  met : Array (Nat × Nat)

/-- A step of making values of nodes. -/
abbrev Make (α : Type) := StateT Making (Except DocumentFault) α

namespace Make

/-- Before the first step. -/
def start (ns : Nodes) : Making := ⟨ns, ns.mergeCount, Array.replicate ns.size none, #[], #[]⟩

/-- Adds a collection and gives its number. -/
def addCell (c : Cell) : Make Nat :=
  modifyGet fun m => (m.cells.size, { m with cells := m.cells.push c })

/-- The collection that a node of a kind becomes, before it is filled. -/
def emptyCell? : Kind → Option Cell
  | .sequence => some (.list [])
  | .orderedPairs => some (.list [])
  | .pairs => some (.list [])
  | .mapping => some (.map [])
  | .set => some (.set [])
  | _ => none

/-- Whether a kind has scalar values. -/
def hasScalars : Kind → Bool
  | .merge => false
  | .default => false
  | .unknown => false
  | k => (emptyCell? k).isNone

/-- The number of a scalar as a key. The form `.nan` stands for one and the same scalar wherever it
is written. -/
def originOf (i : Nat) (kind : Kind) (text : String) : Nat :=
  match kind, unsign (Text.lower text) with
  | .float, .ok (_, cs) => if cs = ".nan".toList then 0 else i + 1
  | _, _ => i + 1

/-- The scalar that a node stands for. Days and times have to be written as scalars themselves. -/
def scalar (i : Nat) : Make Key := do
  let ns := (← get).nodes
  let kind := ns.kind i
  if !hasScalars kind then throw .malformed
  let text ← ns.textOf i
  if kind = .time && (ns.node i).content != .scalar text then throw (.misfit .wrongKind)
  return ⟨← scalarValue kind text, originOf i kind text⟩

/-- What stands for a node; a collection met for the first time is filled later. -/
def part (i : Nat) : Make Part := do
  let m ← get
  if let some p := (m.parts[i]?).join then return p
  let p ←
    match emptyCell? (m.nodes.kind i) with
    | none => do pure (.scalar (← scalar i))
    | some c => do
      let n ← addCell c
      modify fun m => { m with met := m.met.push (n, i) }
      pure (.cell n)
  modify fun m => { m with parts := m.parts.setIfInBounds i (some p) }
  return p

/-! ## Filling collections -/

/-- What a node holds. -/
def contentOf (i : Nat) : Make Content := do return ((← get).nodes.node i).content

/-- The items of a list. -/
def items (i : Nat) : Make (List Part) := do
  match ← contentOf i with
  | .sequence is => is.mapM part
  | _ => throw .malformed

/-- A pair in a list, which is written as a mapping with one key. -/
def pair (i : Nat) : Make Part := do
  match ← contentOf i with
  | .mapping [(k, v)] =>
    let key ← part k
    let value ← part v
    return .cell (← addCell (.tuple [key, value]))
  | _ => throw .malformed

/-- The pairs of a list of pairs. -/
def pairs (i : Nat) : Make (List Part) := do
  match ← contentOf i with
  | .sequence is => is.mapM pair
  | _ => throw .malformed

/-- The entries of a map. A collection is no key; a key that comes again keeps its place. -/
def entries (i : Nat) : Make (List (Key × Part)) := do
  match ← contentOf i with
  | .mapping _ =>
    let m ← get
    let (_, ns) ← (Nodes.merge m.mergeKeys i).run m.nodes
    set { m with nodes := ns }
    (ns.pairs i).foldlM (fun es p => do
      match ← part p.1 with
      | .scalar key => return Table.put key.same key (← part p.2) es
      | .cell _ => throw .malformed) []
  | _ => throw .malformed

/-- The collection that a node becomes. -/
def filled (i : Nat) : Make Cell := do
  match (← get).nodes.kind i with
  | .orderedPairs => return .list (← pairs i)
  | .pairs => return .list (← pairs i)
  | .mapping => return .map ((← entries i).map fun e => (e.1.value, e.2))
  | .set => return .set (setOrder ((← entries i).map fun e => e.1.value))
  | _ => return .list (← items i)

/-- Fills the collections from one on, with those met on the way. A node is met once, so the number
of nodes bounds the rounds. -/
def fillFrom : Nat → Nat → Make Unit
  | 0, _ => return ()
  | fuel + 1, k => do
    match (← get).met[k]? with
    | none => return ()
    | some (n, i) =>
      let c ← filled i
      modify fun m => { m with cells := m.cells.setIfInBounds n c }
      fillFrom fuel (k + 1)

/-- The value of a node. -/
def value (i : Nat) : Make Value := do
  let root ← part i
  fillFrom ((← get).nodes.size + 1) 0
  return (← get).cells.valueOf root

end Make

/-- The value of a node. -/
def Nodes.value (ns : Nodes) (i : Nat) : Scan Value :=
  ((Make.value i).run (Make.start ns)).map Prod.fst

/-- The value of a text; a text without a document has none. -/
def readDocument (s : Source) : Scan Value := do
  match ← Nodes.ofTokens (.ofSource s) with
  | none => return .null
  | some (root, ns) => ns.value root

/-- The value of the text in a file. -/
def ofFile (bytes : List UInt8) : Scan Value := readDocument (.ofBytes bytes)

end Provision.Document
