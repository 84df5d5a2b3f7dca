import Provision.Part.PowerSection

/-!
# Scheduled tasks

* `TaskChange`: a task of the target machine that is enabled or disabled.
* `TaskBatch.row`: its row in the table of changes.
* `TaskBatch.steps`: the table and what carries it out.
-/

namespace Provision

/-- A task with the action for it, an argument of the task tool. -/
structure TaskChange where
  path : String
  action : String
  description : String
deriving DecidableEq, Repr

namespace TaskBatch

/-- The action that enables or disables a task. -/
def actionFor (on : Bool) : String := if on then "/Enable" else "/Disable"

/-- One row of the table of changes. -/
def row (t : TaskChange) : String :=
  "@\x7b TN=" ++ Literal.quote t.path ++ "; Action='" ++ t.action ++ "'; Desc=" ++
    Literal.quote t.description ++ " \x7d"

/-- The text that carries out all changes of the table. -/
def applyText : Fragment :=
  ["Write-Log \"Applying scheduled task settings...\" \"INFO\"",
   "$processedCount = 0"] ++
  Fragment.scope "foreach ($task in $scheduledTasks)"
    (Fragment.branches [
       ("try",
         ["$null = & schtasks.exe /Change /TN $task.TN $task.Action 2>&1"] ++
         Fragment.branches [
           ("if ($LASTEXITCODE -eq 0)",
             ["Write-Log \"$($task.Desc)\" \"SUCCESS\"",
              "$processedCount++"]),
           ("else",
             ["Write-Log \"Task command failed for: $($task.TN)\" \"WARNING\""])]),
       ("catch",
         ["Write-Log \"Failed to process task: $($task.TN) - $($_.Exception.Message)\" " ++
            "\"ERROR\""])]) ++
  ["Write-Log \"Processed $processedCount scheduled task settings\" \"SUCCESS\""] ++
  [""]

/-- The table of changes and what carries it out. -/
def steps (changes : List TaskChange) : List Step :=
  [.blank, .line "$scheduledTasks = @(",
    .indented 1 ((PowerSection.withCommas (changes.map row)).map Step.line), .line ")",
    .blank] ++ applyText.steps

end TaskBatch

end Provision
