import Provision.Script.Fragment

/-!
# Places in the script and on the machine

* `Workspace.scriptsFolder`: makes the folder that receives helper scripts.
* `Workspace.placeholder`: marks where additions by hand go.
* `Workspace.hibernation`: turns hibernation on or off.
-/

namespace Provision.Workspace

/-- The folder for helper scripts. -/
def scriptsPath : String := "C:\\ProgramData\\Winhance\\Scripts"

/-- The text that makes the folder. -/
def scriptsFolderText : Fragment :=
  ["$scriptsDir = '" ++ scriptsPath ++ "'"] ++
  Fragment.scope "if (-not (Test-Path $scriptsDir))"
    ["New-Item -ItemType Directory -Path $scriptsDir -Force | Out-Null",
     "Write-Log \"Created scripts directory: $scriptsDir\" \"SUCCESS\""] ++
  [""]

/-- Makes the folder that receives helper scripts. -/
def scriptsFolder : List Step := scriptsFolderText.steps

/-- Marks where additions by hand go. -/
def placeholder (scope : String) : List Step := [
  .banner ("ADD YOUR " ++ scope ++ " POWERSHELL SCRIPT CONTENTS BELOW"),
  .line "# Start here",
  .blank,
  .line "# End here",
  .blank]

/-- Turns hibernation on or off. -/
def hibernation (on : Bool) : List Step :=
  let state := if on then "on" else "off"
  [.blank,
    .line ("Write-Log \"Setting hibernation to " ++ state ++ "...\" \"INFO\""),
    .line ("powercfg /hibernate " ++ state ++ " 2>$null"),
    .line ("Write-Log \"Hibernation set to " ++ state ++ "\" \"SUCCESS\"")]

end Provision.Workspace
