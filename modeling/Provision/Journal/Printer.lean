import Provision.Journal.Entry

/-!
# Printing a journal

* `Printer`: a logger that prints, with the levels it shows.
* `Printer.line?`: what an entry prints, if anything.
-/

namespace Provision

/-- Which entries are printed; steps, warnings and errors are whenever it is enabled, and what is
said to the user always. -/
structure Printer where
  enabled : Bool
  verbose : Bool
  debug : Bool
deriving DecidableEq, Repr

namespace Printer

/-- Prints nothing but what is said to the user. -/
def silent : Printer := ⟨false, false, false⟩

/-- Prints the levels asked for; debug messages come with verbose ones. -/
def make (verbose debug : Bool) : Printer := ⟨true, verbose || debug, debug⟩

/-- The line that an entry prints. -/
def line? (p : Printer) : Entry → Option String
  | .step number total message =>
    if p.enabled then
      some ("[" ++ toString number ++ "/" ++ toString total ++ "] " ++ message)
    else none
  | .said line => some line
  | .note level topic message =>
    let shown (on : Bool) (word : String) : Option String :=
      if p.enabled && on then some (Entry.mark topic (word ++ message)) else none
    match level with
    | .verbose => shown p.verbose ""
    | .debug => shown p.debug ""
    | .warning => shown true "WARNING: "
    | .error => shown true "ERROR: "

/-- All that a journal prints, every line ended. -/
def output (p : Printer) (entries : List Entry) : String :=
  String.join ((entries.filterMap p.line?).map (· ++ "\n"))

end Printer

end Provision
