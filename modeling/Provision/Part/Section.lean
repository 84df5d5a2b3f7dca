import Provision.Part.Hardening
import Provision.Part.Import
import Provision.Part.TaskBatch
import Provision.Part.Wallpaper
import Provision.Part.Workspace
import Provision.Registry.Statement

/-!
# What the sections of features write

* `Block`: one thing that a section writes, by what it does; its title comes first.
* `Block.steps`: how it is written.
-/

namespace Provision

/-- One thing that the section of a feature writes. -/
inductive Block where
  /-- Begins a section. -/
  | title (text : String)
  /-- Brings a registry target to a value by commands. -/
  | registry (target : Target) (value : Value) (commands : List Statement)
  /-- Sets one side of a power setting, as the definition `setting` asks. -/
  | power (setting : Setting) (command : PowerStatement)
  /-- Logs that power settings were set. -/
  | powerDone (description : String)
  /-- Imports a registry file. -/
  | registryFile (setting : Setting) (phase : Phase) (content : String)
  /-- Turns hibernation on or off. -/
  | hibernation (on : Bool)
  /-- Enables and disables scheduled tasks. -/
  | tasks (changes : List TaskChange)
  /-- Sets the wallpaper. -/
  | wallpaper
  /-- Hardens the disabled mode of updates. -/
  | hardening

/-- How a block is written. -/
def Block.steps : Block → List Step
  | title text => [.banner text]
  | registry _ _ commands => commands.map fun c => .line c.text
  | power _ command => [.line command.text]
  | powerDone description =>
    [.line ("Write-Log " ++ Literal.quote ("Applied: " ++ description) ++ " 'SUCCESS'")]
  | registryFile setting phase content => RegistryFile.steps setting phase content
  | hibernation on => Workspace.hibernation on
  | tasks changes => TaskBatch.steps changes
  | wallpaper => Wallpaper.stock
  | hardening => Hardening.updates

/-- How blocks are written one after the other. -/
def Block.allSteps (blocks : List Block) : List Step := blocks.flatMap Block.steps

theorem Block.allSteps_append (blocks more : List Block) :
    allSteps (blocks ++ more) = allSteps blocks ++ allSteps more := List.flatMap_append

end Provision
