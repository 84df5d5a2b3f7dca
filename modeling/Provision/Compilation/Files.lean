import Provision.Compilation.Backend

/-!
# Compiling files

* `CompileOptions`: what a compilation of files is asked for.
* `compileFiles`: loads the documents, compiles them, and writes the script.
-/

namespace Provision

/-- What a compilation of files is asked for. -/
structure CompileOptions where
  config : Path
  catalog : Path
  /-- Where the script is written; nowhere if absent. -/
  output : Option Path
  snapshot : Option Path
  backend : Option String
  powerShell : Option String
  skipsValidation : Bool
deriving DecidableEq, Repr

namespace CompileOptions

/-- The checker, unless the check is skipped. -/
def checker? (o : CompileOptions) : Option (Checker Machine) :=
  if o.skipsValidation then none
  else some (Checker.powerShell o.powerShell Checker.usualLimit)

/-- Loads the documents and compiles them. -/
def compile (o : CompileOptions) : Action Machine Compilation := do
  let catalog ← loadCatalog o.catalog
  let config ← loadConfiguration o.config
  let provider ← selectServices o.snapshot o.backend o.powerShell
  Provision.compile provider.services o.checker? catalog config

/-- Writes the script of a compilation, if it is asked for. -/
def deliver (o : CompileOptions) (c : Compilation) : Action Machine Compilation := do
  match o.output with
  | none => return c
  | some p =>
    Machine.saveText p c.script
    Action.report [.scriptWritten p.text]
    return { c with output := some p }

end CompileOptions

/-- Compiles files into a script; nothing is written before the compilation has succeeded. -/
def compileFiles (o : CompileOptions) : Action Machine Compilation := do
  o.deliver (← o.compile)

end Provision
