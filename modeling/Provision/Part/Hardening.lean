import Provision.Script.Fragment

/-!
# Keeping updates disabled

* `Hardening.updates`: stops what would turn updates on again: services, tasks, libraries and the
  download folder.
-/

namespace Provision.Hardening

/-- The text that hardens the disabled mode. -/
def updatesText : Fragment :=
  ["Write-Log \"Applying Windows Update Disabled mode hardening...\" \"INFO\"",
   "",
   "$updateServices = @('wuauserv', 'UsoSvc', 'WaaSMedicSvc')"] ++
  Fragment.scope "foreach ($service in $updateServices)"
    (Fragment.branches [
       ("try",
         ["net stop $service 2>$null | Out-Null",
          "sc.exe config $service start= disabled 2>$null | Out-Null",
          "sc.exe failure $service reset= 0 actions= '\"\"' 2>$null | Out-Null",
          "Write-Log \"Disabled service: $service\" \"SUCCESS\""]),
       ("catch",
         ["Write-Log \"Failed to disable $service : $($_.Exception.Message)\" \"WARNING\""])]) ++
  [""] ++
  Fragment.list "$updateTaskPaths = @"
    ["'\\Microsoft\\Windows\\InstallService\\',",
     "'\\Microsoft\\Windows\\UpdateOrchestrator\\',",
     "'\\Microsoft\\Windows\\UpdateAssistant\\',",
     "'\\Microsoft\\Windows\\WaaSMedic\\',",
     "'\\Microsoft\\Windows\\WindowsUpdate\\'"] ++
  Fragment.scope "foreach ($taskPath in $updateTaskPaths)"
    (["$tasks = Get-ScheduledTask -TaskPath $taskPath -ErrorAction SilentlyContinue"] ++
     Fragment.scope "foreach ($task in $tasks)"
       (Fragment.branches [
          ("try",
            ["Disable-ScheduledTask -TaskName $task.TaskName -TaskPath $task.TaskPath " ++
               "-ErrorAction Stop | Out-Null",
             "Write-Log \"Disabled task: $($task.TaskPath)$($task.TaskName)\" \"SUCCESS\""]),
          ("catch",
            ["Write-Log \"Skipped task: $($task.TaskPath)$($task.TaskName)\" \"WARNING\""])])) ++
  ["",
   "$updateDlls = @('WaaSMedicSvc.dll', 'wuaueng.dll')"] ++
  Fragment.scope "foreach ($dll in $updateDlls)"
    (Fragment.branches [
       ("try",
         ["$dllPath = Join-Path \"$env:SystemRoot\\System32\" $dll",
          "$backupPath = Join-Path \"$env:SystemRoot\\System32\" ($dll -replace '\\.dll$', " ++
            "'_BAK.dll')"] ++
         Fragment.branches [
           ("if ((Test-Path $dllPath) -and -not (Test-Path $backupPath))",
             ["takeown /f \"$dllPath\" 2>$null | Out-Null",
              "icacls \"$dllPath\" /grant '*S-1-1-0:F' 2>$null | Out-Null",
              "Move-Item -Path $dllPath -Destination $backupPath -Force -ErrorAction Stop",
              "Write-Log \"Renamed $dll to backup\" \"SUCCESS\""]),
           ("elseif (Test-Path $backupPath)",
             ["Write-Log \"$dll already backed up\" \"INFO\""])]),
       ("catch",
         ["Write-Log \"Failed to rename $dll : $($_.Exception.Message)\" \"WARNING\""])]) ++
  [""] ++
  Fragment.branches [
    ("try",
      ["$softwareDistPath = \"$env:SystemRoot\\SoftwareDistribution\""] ++
      Fragment.scope "if (Test-Path $softwareDistPath)"
        ["Remove-Item \"$softwareDistPath\\*\" -Recurse -Force -ErrorAction " ++
           "SilentlyContinue",
         "Write-Log \"SoftwareDistribution folder cleaned\" \"SUCCESS\""]),
    ("catch",
      ["Write-Log \"Failed to clean SoftwareDistribution: $($_.Exception.Message)\" " ++
         "\"WARNING\""])] ++
  ["",
   "Write-Log \"Windows Update Disabled mode hardening completed\" \"SUCCESS\""]

/-- Hardens the disabled mode of updates. -/
def updates : List Step :=
  .banner "WINDOWS UPDATE DISABLED MODE - ADDITIONAL HARDENING" :: updatesText.steps ++ [.blank]

end Provision.Hardening
