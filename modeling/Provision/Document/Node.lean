import Provision.Document.Fault
import Provision.Document.Plain

/-!
# Nodes of a document

* `Node`: a scalar, a sequence or a mapping, with its kind.
* `Nodes`: the nodes of a document. They name their parts by number, so one may be part of several
  others, and of itself.
* `Nodes.textOf`: the text that a node has where a scalar is needed.
-/

namespace Provision.Document

/-- What a node holds. -/
inductive Content where
  | scalar (text : String)
  | sequence (items : List Nat)
  | mapping (pairs : List (Nat × Nat))
deriving DecidableEq, Repr

/-- A node. -/
structure Node where
  kind : Kind
  content : Content
deriving DecidableEq, Repr

/-- A node for what has been left out. -/
def Node.empty : Node := ⟨.null, .scalar ""⟩

/-- The nodes of a document by their numbers. -/
abbrev Nodes := Array Node

namespace Nodes

/-- The node with a number. -/
def node (ns : Nodes) (i : Nat) : Node := (ns[i]?).getD .empty

/-- The kind of a node. -/
def kind (ns : Nodes) (i : Nat) : Kind := (ns.node i).kind

/-- The pairs of a mapping. -/
def pairs (ns : Nodes) (i : Nat) : List (Nat × Nat) :=
  match (ns.node i).content with
  | .mapping ps => ps
  | _ => []

/-- Gives a mapping other pairs. -/
def setPairs (ns : Nodes) (i : Nat) (ps : List (Nat × Nat)) : Nodes :=
  ns.modify i fun n => { n with content := .mapping ps }

/-- Gives a node another kind. -/
def setKind (ns : Nodes) (i : Nat) (k : Kind) : Nodes := ns.modify i fun n => { n with kind := k }

/-- The text of a scalar; a mapping stands for the value of its default key. Only a mapping that
stands for itself uses up more rounds than there are nodes. -/
def textOfWithin (ns : Nodes) : Nat → Nat → Scan String
  | 0, _ => .error .endless
  | fuel + 1, i =>
    match (ns.node i).content with
    | .scalar text => .ok text
    | .sequence _ => .error .malformed
    | .mapping pairs =>
      match pairs.find? fun p => ns.kind p.1 = .default with
      | some p => ns.textOfWithin fuel p.2
      | none => .error .malformed

/-- The text that a node has where a scalar is needed. -/
def textOf (ns : Nodes) (i : Nat) : Scan String := ns.textOfWithin (ns.size + 1) i

end Nodes

end Provision.Document
