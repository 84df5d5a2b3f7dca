import Provision.Problem

/-!
# The shape of document nodes

* `Shape.entries`, `Shape.items`: a node as a map or as a list; an absent node is empty.
* `Shape.integer`: a node as an integer, written as a number or as a numeral in any base.
* `Shape.text`, `Shape.textOr`: a node as a text.
* `Shape.each`: reads the items of a list in order, with the place of each.
* `InputKind`: how a setting is chosen, by the word a document uses.
-/

namespace Provision

/-- How a setting is chosen. -/
inductive InputKind where
  | toggle
  | selection
  | powerPlan
deriving DecidableEq, Repr

/-- The word for a way to choose. -/
def InputKind.name : InputKind → String
  | toggle => "toggle"
  | selection => "selection"
  | powerPlan => "power-plan"

/-- The way to choose that a node names. -/
def InputKind.ofValue? : Value → Option InputKind
  | .str s => [InputKind.toggle, .selection, .powerPlan].find? fun k => k.name == s
  | _ => none

namespace Shape

/-- A node as a map; an absent node is an empty one. -/
def entries (v : Value) (place : String) : Except Problem Entries :=
  match v.opened with
  | .null => .ok []
  | .map es => .ok es
  | _ => .error (.notMap place v.kindName)

/-- A node as a list; an absent node is an empty one. -/
def items (v : Value) (place : String) : Except Problem (List Value) :=
  match v.opened with
  | .null => .ok []
  | .list vs => .ok vs
  | _ => .error (.notList place v.kindName)

/-- A node as an integer; truth values are none. -/
def integer (v : Value) (place : String) : Except Problem Int :=
  match v with
  | .int n => .ok n
  | .str s =>
    match Numeral.anyBase? (Text.trim s) with
    | some n => .ok n
    | none => .error (.notInteger place v)
  | _ => .error (.notInteger place v)

/-- A node as an integer, unless it is absent. -/
def integer? (v : Value) (place : String) : Except Problem (Option Int) :=
  if v.isNull then .ok none else (integer v place).map some

/-- The place of an item of a list. -/
def itemPlace (place : String) (index : Nat) : String := place ++ "[" ++ toString index ++ "]"

/-- Reads items in order from a given index on. -/
def eachFrom {α : Type} (read : Value → String → Except Problem α) (place : String) (index : Nat) :
    List Value → Except Problem (List α)
  | [] => .ok []
  | v :: vs => do
    let x ← read v (itemPlace place index)
    let xs ← eachFrom read place (index + 1) vs
    return x :: xs

/-- Reads the items of a list in order, with the place of each. -/
def each {α : Type} (read : Value → String → Except Problem α) (v : Value) (place : String) :
    Except Problem (List α) := do
  eachFrom read place 0 (← items v place)

/-- The text of a node. -/
def text (v : Value) : Except Problem String :=
  if v.isWritable then .ok v.text else .error .tooManyDigits

/-- The text of the first of two nodes that is set. -/
def textOr (v fallback : Value) : Except Problem String :=
  text (if v.isTruthy then v else fallback)

end Shape

end Provision
