import Provision.Document.Node

/-!
# Merging mappings

* `Nodes.merge`: puts the pairs of other mappings in the place of the merge keys of one.

The pairs merged in come before the mapping's own, so that its own win. Of several mappings under
one key the last comes first, so that the first wins. A mapping that is merged in is merged itself
before, and a merge key is removed before its value is looked at, so a mapping may even name itself.
-/

namespace Provision.Document.Nodes

/-- A change of nodes, which may find the document malformed. -/
abbrev Change (α : Type) := StateT Nodes (Except DocumentFault) α

/-- How many merge keys there are. -/
def mergeCount (ns : Nodes) : Nat :=
  (List.range ns.size).foldl
    (fun n i => n + ((ns.pairs i).filter fun p => ns.kind p.1 = .merge).length) 0

/-- Makes default keys plain texts. -/
def settleDefaults (ns : Nodes) (ps : List (Nat × Nat)) : Nodes :=
  ps.foldl (fun ns p => if ns.kind p.1 = .default then ns.setKind p.1 .str else ns) ns

/-- Merges into a mapping from one of its pairs on; `merged` has been merged in before. Every round
removes a merge key and none is ever added, so their number bounds the rounds. -/
def mergeFrom : Nat → Nat → Nat → List (Nat × Nat) → Change Unit
  | 0, _, _, _ => throw .endless
  | fuel + 1, i, position, merged => do
    let ns ← get
    let (before, others) := (ns.pairs i).splitAt position
    let plain := others.takeWhile fun p => ns.kind p.1 != .merge
    match others.drop plain.length with
    | [] => set ((ns.settleDefaults plain).setPairs i (merged ++ before ++ plain))
    | (_, source) :: rest =>
      set ((ns.settleDefaults plain).setPairs i (before ++ plain ++ rest))
      let mapping (j : Nat) : Change (List (Nat × Nat)) := do
        match ((← get).node j).content with
        | .mapping _ =>
          mergeFrom fuel j 0 []
          return (← get).pairs j
        | _ => throw .malformed
      let more ←
        match (ns.node source).content with
        | .sequence items => do
          let parts ← items.mapM mapping
          pure parts.reverse.flatten
        | _ => mapping source
      mergeFrom fuel i (position + plain.length) (merged ++ more)

/-- Merges into a mapping what its merge keys name; there are at most `keys` of them. -/
def merge (keys i : Nat) : Change Unit := mergeFrom (keys + 1) i 0 []

end Provision.Document.Nodes
