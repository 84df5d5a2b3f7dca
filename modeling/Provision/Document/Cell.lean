import Provision.Value.Text

/-!
# Collections in the making

* `Part`: a value, or a collection by its number.
* `Cell`: a collection, which names the collections in it by number and may be part of itself.
* `Cells.valueOf`: the value of a part.
* `setOrder`: the order of the items of a set.
-/

namespace Provision.Document

/-- A scalar where a key may stand. Two keys are one if they are the same scalar, and also if they
are equal; only a value that is no number is not equal to itself. -/
structure Key where
  value : Value
  /-- The number of the scalar. -/
  origin : Nat

/-- Whether two keys are one. -/
def Key.same (k k' : Key) : Bool := k.origin == k'.origin || k.value.sameKey k'.value

/-- What stands for a node. -/
inductive Part where
  | scalar (k : Key)
  | cell (number : Nat)

/-- A collection. -/
inductive Cell where
  | list (items : List Part)
  | tuple (items : List Part)
  | set (items : List Value)
  | map (entries : List (Value × Part))

/-- The brackets around a collection when it is written. -/
def Cell.brackets : Cell → Brackets
  | list _ => .square
  | tuple _ => .round
  | set _ => .curly
  | map _ => .curly

/-- The number of places among which the items of a set are spread: the least power of two that is
more than twice their count, and at least eight. -/
def placesFor (count : Nat) : Nat :=
  if count ≤ 4 then 8 else (List.range 64).foldl (fun n _ => if n ≤ 2 * count then 2 * n else n) 8

/-- The order of the items of a set: integers by their remainders modulo the number of places, and
anything else as it was written. -/
def setOrder (vs : List Value) : List Value :=
  let places : Int := placesFor vs.length
  match vs.mapM Value.keyNumber? with
  | none => vs
  | some ns => ((ns.zip vs).mergeSort fun a b => a.1 % places ≤ b.1 % places).map Prod.snd

/-- Collections by their numbers. -/
abbrev Cells := Array Cell

namespace Cells

/-- The collection with a number. -/
def cell (cs : Cells) (n : Nat) : Cell := (cs[n]?).getD (.list [])

/-- The values of the collections that have been met and that no collection in them contains. -/
abbrev Known := Array (Option Value)

/-- A value, and the numbers of the collections in it that contain themselves. -/
abbrev Unfolded := Value × List Nat

/-- The value of a part inside the collections with some numbers. Inside itself a collection is left
as a number. The collections around a part differ, so their number bounds the rounds. -/
def unfold (cs : Cells) : Nat → List Nat → Part → StateM Known Unfolded
  | _, _, .scalar k => return (k.value, [])
  | 0, _, .cell n => return (.loop n (cs.cell n).brackets, [n])
  | fuel + 1, around, .cell n => do
    if let some v := ((← get)[n]?).join then return (v, [])
    if around.contains n then return (.loop n (cs.cell n).brackets, [n])
    let inside : Part → StateM Known Unfolded := cs.unfold fuel (n :: around)
    let (body, loops) ←
      match cs.cell n with
      | .list ps => do
        let rs ← ps.mapM inside
        pure (.list (rs.map Prod.fst), rs.flatMap Prod.snd)
      | .tuple ps => do
        let rs ← ps.mapM inside
        pure (.tuple (rs.map Prod.fst), rs.flatMap Prod.snd)
      | .set vs => pure (.set vs, [])
      | .map es => do
        let rs ← es.mapM fun e => return (e.1, ← inside e.2)
        pure (.map (rs.map fun r => (r.1, r.2.1)), rs.flatMap fun r => r.2.2)
    if loops.isEmpty then
      modify fun known => known.setIfInBounds n (some body)
      return (body, [])
    else
      let whole := if loops.any (n :: around).contains then .knot n body else body
      return (whole, loops.eraseDups)

/-- The value of a part. -/
def valueOf (cs : Cells) (p : Part) : Value :=
  ((cs.unfold (cs.size + 1) [] p).run (Array.replicate cs.size none)).1.1

end Cells

end Provision.Document
