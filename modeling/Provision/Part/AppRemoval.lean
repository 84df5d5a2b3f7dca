import Provision.Journal.Draft
import Provision.Removal.Script

/-!
# Removing apps

* `Removal.section?`: the part of the system phase that writes the removal script, runs it and
  registers its task; nothing is written when there is nothing to remove.
-/

namespace Provision.Removal

/-- The text that writes and runs the removal script and registers its task. -/
def runText : Fragment :=
  ["$appRemovalPath = Join-Path $scriptsDir " ++ Literal.quote scriptName] ++
  Fragment.branches [
    ("try",
      ["$appRemovalContent | Out-File -FilePath $appRemovalPath -Encoding UTF8 -Force",
       "Write-Log \"Created: $appRemovalPath\" \"SUCCESS\""]),
    ("catch",
      ["Write-Log \"Failed to create app removal script: $($_.Exception.Message)\" " ++
         "\"ERROR\""])] ++
  [""] ++
  Fragment.scope "if (Test-Path $appRemovalPath)"
    (["Write-Log \"Executing app removal script...\" \"INFO\""] ++
     Fragment.branches [
       ("try",
         ["Start-Process powershell.exe -ArgumentList \"-ExecutionPolicy Bypass -NoProfile " ++
            "-File `\"$appRemovalPath`\"\" -Wait -NoNewWindow",
          "Write-Log \"App removal execution completed\" \"SUCCESS\""]),
       ("catch",
         ["Write-Log \"App removal execution failed: $($_.Exception.Message)\" \"WARNING\""])] ++
     [""] ++
     Fragment.branches [
       ("try",
         ["$action = New-ScheduledTaskAction -Execute \"powershell.exe\" -Argument " ++
            "\"-ExecutionPolicy Bypass -NoProfile -WindowStyle Hidden -File " ++
            "`\"$appRemovalPath`\" -ScheduledRun\"",
          "$trigger = New-ScheduledTaskTrigger -AtLogOn",
          "$settings = New-ScheduledTaskSettingsSet -AllowStartIfOnBatteries " ++
            "-DontStopIfGoingOnBatteries -ExecutionTimeLimit 0",
          "$principal = New-ScheduledTaskPrincipal -UserId \"SYSTEM\" -LogonType " ++
            "ServiceAccount -RunLevel Highest",
          "Register-ScheduledTask -TaskName " ++ Literal.quote taskName ++ " -TaskPath " ++
            Literal.quote Logon.taskFolder ++
            " -Action $action -Trigger $trigger -Settings $settings -Principal $principal " ++
            "-Force | Out-Null",
          "Write-Log 'Registered scheduled task: " ++ taskName ++ "' 'SUCCESS'"]),
       ("catch",
         ["Write-Log \"Failed to register app removal task: $($_.Exception.Message)\" " ++
            "\"ERROR\""])]) ++
  ["Write-Log \"Windows Apps removal configuration completed\" \"SUCCESS\"",
   ""]

/-- The steps for a plan. -/
def sectionSteps (plan : RemovalPlan) : List Step :=
  [.banner "WINDOWS APPS REMOVAL", .hereString "$appRemovalContent" (script plan), .blank] ++
    runText.steps

/-- What is written for the items to remove, if anything is. -/
def section? (items : List RemovalItem) : Option (List Step) × List Notice :=
  let (plan, notices) := RemovalPlan.ofItems items
  if plan.isEmpty then (none, notices)
  else
    (some (sectionSteps plan),
      notices ++ [.removalsSorted plan.packages.length plan.capabilities.length plan.features.length
        plan.edge plan.oneDrive])

end Provision.Removal
