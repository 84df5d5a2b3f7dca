import Provision.Journal.Entry

/-!
# Collecting warnings

* `Collector`: the distinct warnings and all errors that came past.
* `Collector.record`: takes one entry; a warning seen before is not passed on.
* `Collector.recordAll`: takes entries in order and returns those passed on.
-/

namespace Provision

/-- What a compilation has reported so far. -/
structure Collector where
  warnings : List String
  errors : List String
deriving DecidableEq, Repr

namespace Collector

/-- Nothing reported yet. -/
def empty : Collector := ⟨[], []⟩

/-- Takes one entry and returns what is passed on: everything but a warning reported before. -/
def record (c : Collector) (e : Entry) : Collector × List Entry :=
  match e with
  | .note .warning topic message =>
    let mark := Entry.mark topic message
    if c.warnings.contains mark then (c, [])
    else (⟨c.warnings ++ [mark], c.errors⟩, [e])
  | .note .error topic message => (⟨c.warnings, c.errors ++ [Entry.mark topic message]⟩, [e])
  | _ => (c, [e])

/-- Takes entries in order and returns those passed on. -/
def recordAll (c : Collector) : List Entry → Collector × List Entry
  | [] => (c, [])
  | e :: es =>
    let (c, passed) := c.record e
    let (c, rest) := recordAll c es
    (c, passed ++ rest)

theorem recordAll_append (c : Collector) (es more : List Entry) :
    c.recordAll (es ++ more) =
      (((c.recordAll es).1.recordAll more).1,
        (c.recordAll es).2 ++ ((c.recordAll es).1.recordAll more).2) := by
  induction es generalizing c with
  | nil => simp [recordAll]
  | cons e es ih => simp [recordAll, ih]

end Collector

end Provision
