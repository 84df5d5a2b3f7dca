import Provision.Document.Node
import Provision.Document.Token

/-!
# Reading nodes from tokens

* `Nodes.ofTokens`: the nodes of a text with a single document, if it has any, and its root.

A token is looked at only when it is needed, so that of two faults the first one met counts. An
anchor refers to its node as soon as the node begins: a node may be part of itself.
-/

namespace Provision.Document

/-- What is left to read, and what has been read. -/
structure Unread where
  tokens : Tokens
  /-- What the handles of tags stand for. -/
  handles : List (String × String)
  /-- The anchors seen, with the nodes they refer to. -/
  anchors : List (String × Nat)
  nodes : Nodes
  /-- How many collections are open. -/
  depth : Nat

/-- A step of reading. -/
abbrev Read (α : Type) := StateT Unread (Except DocumentFault) α

namespace Read

/-- The token at hand, if there is one left. -/
def peek : Read (Option Token) := do
  let tokens := (← get).tokens
  match tokens.words, tokens.beyond with
  | t :: _, _ => return some t
  | [], none => return none
  | [], some f => throw f

/-- Moves on by one token. -/
def next : Read Unit :=
  modify fun r => { r with tokens := { r.tokens with words := r.tokens.words.tail } }

/-- The document is malformed. -/
def refuse {α : Type} : Read α := throw .malformed

/-- Moves on by one token if it is the given one. -/
def accept (t : Token) : Read Bool := do
  if (← peek) = some t then
    next
    return true
  else return false

/-- Whether the token at hand ends an entry that may be left out. -/
def atOneOf (ts : List Token) : Read Bool := do
  match ← peek with
  | some t => return ts.contains t
  | none => return true

/-! ## Adding nodes -/

/-- Adds a node, to which its anchor refers from now on, and gives its number. -/
def add (anchor : Option String) (n : Node) : Read Nat :=
  modifyGet fun r =>
    let i := r.nodes.size
    let anchors := (anchor.map fun name => (name, i)).toList ++ r.anchors
    (i, { r with nodes := r.nodes.push n, anchors := anchors })

/-- Adds a node for what has been left out. -/
def addEmpty : Read Nat := add none .empty

/-- How many collections may be open at a time. -/
def deepest : Nat := 485

/-- Adds a collection, whose parts are read after it has been given its number. -/
def addCollection (anchor : Option String) (kind : Kind) (parts : Read Content) : Read Nat := do
  let i ← add anchor ⟨kind, .sequence []⟩
  if deepest < (← get).depth then throw .endless
  modify fun r => { r with depth := r.depth + 1 }
  let content ← parts
  modify fun r =>
    { r with nodes := r.nodes.setIfInBounds i ⟨kind, content⟩, depth := r.depth - 1 }
  return i

/-! ## Properties -/

/-- The anchor and the tag before a node. -/
structure Properties where
  anchor : Option String
  tag : Option (Option String × String)

/-- Reads an anchor. -/
def anchor? : Read (Option String) := do
  match ← peek with
  | some (.anchor name) => next; return some name
  | _ => return none

/-- Reads a tag. -/
def tag? : Read (Option (Option String × String)) := do
  match ← peek with
  | some (.tag handle suffix) => next; return some (handle, suffix)
  | _ => return none

/-- Reads an anchor and a tag, in either order. -/
def properties : Read Properties := do
  match ← anchor? with
  | some name => return ⟨some name, ← tag?⟩
  | none =>
    let tag ← tag?
    if tag.isSome then return ⟨← anchor?, tag⟩ else return ⟨none, none⟩

/-- The whole text of a tag. -/
def expand : Option (Option String × String) → Read (Option String)
  | none => return none
  | some (none, suffix) => return some suffix
  | some (some handle, suffix) => do
    match (← get).handles.find? fun h => h.1 == handle with
    | some h => return some (h.2 ++ suffix)
    | none => refuse

/-- Refuses an anchor that has been seen. -/
def requireNew (anchor : Option String) : Read Unit := do
  let r ← get
  if anchor.any fun name => r.anchors.any fun a => a.1 == name then refuse

/-- The node that a reference refers to. -/
def resolve (name : String) : Read Nat := do
  match (← get).anchors.find? fun a => a.1 == name with
  | some (_, i) => return i
  | none => refuse

/-- The kind of a collection: its own kind unless it is tagged. -/
def collectionKind (own : Kind) : Option String → Kind
  | none => own
  | some tag => if tag = "!" then own else .ofTag tag

/-- The kind of a scalar: by its form if it is plain, or tagged with the mark of no tag. -/
def scalarKind (text : String) (plain : Bool) : Option String → Kind
  | none => if plain then .ofPlain text else .str
  | some tag => if tag = "!" then .ofPlain text else .ofTag tag

/-! ## Collections

Every function is given more rounds than there are tokens left, and each round reads a token or
ends the collection. -/

mutual

/-- A node; `block` allows block collections, and `dashes` a sequence that is not indented. -/
def node (block dashes : Bool) : Nat → Read Nat
  | 0 => refuse
  | fuel + 1 => do
    if let some (.reference name) ← peek then
      next
      return ← resolve name
    let p ← properties
    let tag ← expand p.tag
    let first ← peek
    requireNew p.anchor
    let sequence (items : Read (List Nat)) : Read Nat :=
      addCollection p.anchor (collectionKind .sequence tag) (Content.sequence <$> items)
    let mapping (pairs : Read (List (Nat × Nat))) : Read Nat :=
      addCollection p.anchor (collectionKind .mapping tag) (Content.mapping <$> pairs)
    let leftOut : Read Nat :=
      if p.anchor.isNone && tag.isNone then refuse
      else add p.anchor ⟨scalarKind "" true tag, .scalar ""⟩
    match first with
    | some (.scalar text plain) =>
      next
      add p.anchor ⟨scalarKind text plain tag, .scalar text⟩
    | some .flowSequence => sequence (do next; flowItems true fuel)
    | some .flowMapping => mapping (do next; flowPairs true fuel)
    | some .blockEntry => if dashes then sequence (looseItems fuel) else leftOut
    | some .blockSequence => if block then sequence (do next; blockItems fuel) else leftOut
    | some .blockMapping => if block then mapping (do next; blockPairs fuel) else leftOut
    | _ => leftOut

/-- The items of a block sequence, up to its end. -/
def blockItems : Nat → Read (List Nat)
  | 0 => refuse
  | fuel + 1 => do
    if ← accept .blockEntry then
      let item ← if ← atOneOf [.blockEntry, .blockEnd] then addEmpty else node true false fuel
      return item :: (← blockItems fuel)
    else if ← accept .blockEnd then return []
    else refuse

/-- The items of a sequence whose dashes stand no deeper than the keys around it. -/
def looseItems : Nat → Read (List Nat)
  | 0 => refuse
  | fuel + 1 => do
    if ← accept .blockEntry then
      let item ←
        if ← atOneOf [.blockEntry, .key, .value, .blockEnd] then addEmpty else node true false fuel
      return item :: (← looseItems fuel)
    else return []

/-- The pairs of a block mapping, up to its end. -/
def blockPairs : Nat → Read (List (Nat × Nat))
  | 0 => refuse
  | fuel + 1 => do
    if ← accept .key then
      let key ← if ← atOneOf [.key, .value, .blockEnd] then addEmpty else node true true fuel
      let value ← blockValue fuel
      return (key, value) :: (← blockPairs fuel)
    else if ← accept .blockEnd then return []
    else refuse

/-- The value of a pair of a block mapping, which may be left out. -/
def blockValue : Nat → Read Nat
  | 0 => refuse
  | fuel + 1 => do
    if ← accept .value then
      if ← atOneOf [.key, .value, .blockEnd] then addEmpty else node true true fuel
    else addEmpty

/-- The items of a flow sequence, up to its end; a pair in it is a mapping of its own. -/
def flowItems (first : Bool) : Nat → Read (List Nat)
  | 0 => refuse
  | fuel + 1 => do
    if ← accept .flowSequenceEnd then return []
    if !first then
      if !(← accept .flowEntry) then refuse
    if (← peek) = some .key then
      let item ← addCollection none .mapping do
        next
        let key ←
          if ← atOneOf [.value, .flowEntry, .flowSequenceEnd] then addEmpty
          else node false false fuel
        return .mapping [(key, ← flowValue .flowSequenceEnd fuel)]
      return item :: (← flowItems false fuel)
    else if ← accept .flowSequenceEnd then return []
    else
      let item ← node false false fuel
      return item :: (← flowItems false fuel)

/-- The pairs of a flow mapping, up to its end; a key may come without a value. -/
def flowPairs (first : Bool) : Nat → Read (List (Nat × Nat))
  | 0 => refuse
  | fuel + 1 => do
    if ← accept .flowMappingEnd then return []
    if !first then
      if !(← accept .flowEntry) then refuse
    if ← accept .key then
      let key ←
        if ← atOneOf [.value, .flowEntry, .flowMappingEnd] then addEmpty
        else node false false fuel
      let value ← flowValue .flowMappingEnd fuel
      return (key, value) :: (← flowPairs false fuel)
    else if ← accept .flowMappingEnd then return []
    else
      let key ← node false false fuel
      let value ← addEmpty
      return (key, value) :: (← flowPairs false fuel)

/-- The value of a pair in a flow collection that ends with `close`; it may be left out. -/
def flowValue (close : Token) : Nat → Read Nat
  | 0 => refuse
  | fuel + 1 => do
    if ← accept .value then
      if ← atOneOf [.flowEntry, close] then addEmpty else node false false fuel
    else addEmpty

end

/-! ## Documents -/

/-- The handles that stand for something without a directive. -/
def commonHandles : List (String × String) := [("!", "!"), ("!!", kindHead)]

/-- Reads the directives before a document: at most one version, which has to be 1, and no handle
twice. -/
def directives (version : Bool) (handles : List (String × String)) :
    Nat → Read (List (String × String))
  | 0 => refuse
  | fuel + 1 => do
    match ← peek with
    | some (.directive d) =>
      next
      match d with
      | .version major =>
        if version || major != 1 then refuse else directives true handles fuel
      | .handle name expansion =>
        if handles.any fun h => h.1 == name then refuse
        else directives version (handles ++ [(name, expansion)]) fuel
      | .unknown => directives version handles fuel
    | _ => return handles

/-- Moves over marks of a document's end. -/
def skipEnds : Nat → Read Unit
  | 0 => return ()
  | fuel + 1 => do if ← accept .documentEnd then skipEnds fuel else return ()

/-- Whether a token belongs to the frame of documents. -/
def isFrame : Token → Bool
  | .directive _ => true
  | .documentStart => true
  | .documentEnd => true
  | _ => false

/-- The root of a document that begins with directives or with its mark. -/
def framed (fuel : Nat) : Read Nat := do
  let own ← directives false [] fuel
  let missing := commonHandles.filter fun h => !own.any fun o => o.1 == h.1
  modify fun r => { r with handles := own ++ missing }
  if !(← accept .documentStart) then refuse
  match ← peek with
  | none => addEmpty
  | some t => if isFrame t then addEmpty else node true false fuel

/-- The root of the only document. What comes after it is read up to the mark of another one. -/
def document (fuel : Nat) : Read (Option Nat) := do
  match ← peek with
  | none => return none
  | some first =>
    let root ← if isFrame first && first != .documentEnd then framed fuel else node true false fuel
    skipEnds fuel
    if (← peek).isNone then return some root
    let _ ← directives false [] fuel
    refuse

end Read

/-- The root and the nodes of a text with a single document; nothing for a text without any. -/
def Nodes.ofTokens (ts : Tokens) : Scan (Option (Nat × Nodes)) := do
  let fuel := 2 * ts.words.length + 8
  let (root?, r) ← (Read.document fuel).run ⟨ts, Read.commonHandles, [], #[], 0⟩
  return root?.map fun root => (root, r.nodes)

end Provision.Document
