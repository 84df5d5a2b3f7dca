import Provision.Part.Opening

/-!
# From the system phase to the user phase

The system phase registers a task that runs the script again at the next logon, with the switch for
the user phase. That task runs as the system account, so the user phase first finds the user and
maps the user's registry; a marker in it keeps the choices from being applied twice.

* `Logon.task`: registers the task.
* `Logon.prologue`, `Logon.marker`, `Logon.epilogue`: the frame of the user phase.
-/

namespace Provision.Logon

/-- The name of the task. -/
def taskName : String := "WinhanceUserCustomizations"

/-- The folder of all tasks. -/
def taskFolder : String := "\\Winhance"

/-- The key that holds the marker. -/
def markerKey : String := "HKCU:\\Software\\Winhance"

/-- The name of the marker. -/
def markerValue : String := "UserCustomizationsApplied"

/-- The identity of the system account. -/
def systemSid : String := "S-1-5-18"

/-- The arguments that the task passes. -/
def taskArguments (scriptPath : String) : String :=
  "-ExecutionPolicy Bypass -NoProfile -WindowStyle Hidden -File \"" ++ scriptPath ++ "\" -" ++
    Opening.userSwitch

/-- The text that registers the task. -/
def taskText (scriptPath : String) : Fragment :=
  ["$userScriptPath = " ++ Literal.quote scriptPath] ++
  Fragment.scope "if ($PSCommandPath -and ($PSCommandPath -ne $userScriptPath))"
    (Fragment.branches [
       ("try",
         ["$null = New-Item -Path (Split-Path $userScriptPath) -ItemType Directory -Force",
          "Copy-Item -Path $PSCommandPath -Destination $userScriptPath -Force",
          "Write-Log \"Copied script to $userScriptPath\" \"SUCCESS\""]),
       ("catch",
         ["Write-Log \"Failed to copy script to $userScriptPath : " ++
            "$($_.Exception.Message)\" \"ERROR\""])]) ++
  [""] ++
  Fragment.branches [
    ("try",
      ["$action = New-ScheduledTaskAction -Execute \"powershell.exe\" -Argument " ++
         Literal.quote (taskArguments scriptPath),
       "$trigger = New-ScheduledTaskTrigger -AtLogOn",
       "$settings = New-ScheduledTaskSettingsSet -AllowStartIfOnBatteries " ++
         "-DontStopIfGoingOnBatteries -ExecutionTimeLimit 0",
       "$principal = New-ScheduledTaskPrincipal -UserId \"SYSTEM\" -LogonType " ++
         "ServiceAccount -RunLevel Highest",
       "Register-ScheduledTask -TaskName " ++ Literal.quote taskName ++ " -TaskPath " ++
         Literal.quote taskFolder ++
         " -Action $action -Trigger $trigger -Settings $settings -Principal $principal " ++
         "-Force | Out-Null",
       "Write-Log 'Registered scheduled task: " ++ taskName ++ "' 'SUCCESS'"]),
    ("catch",
      ["Write-Log ('Failed to register " ++ taskName ++ ": ' + $_.Exception.Message) 'ERROR'"])] ++
  [""]

/-- Registers the task that runs the script for the user. -/
def task (scriptPath : String) : List Step :=
  .banner "USER CUSTOMIZATIONS SCHEDULED TASK" :: (taskText scriptPath).steps

/-- The text that finds the user and reads the marker. -/
def prologueText : Fragment :=
  ["Write-Log 'Applying user customizations...' 'INFO'",
   "$currentSid = [System.Security.Principal.WindowsIdentity]::GetCurrent().User.Value",
   "$runningAsSystem = ($currentSid -eq '" ++ systemSid ++
     "') -or ($env:USERNAME -eq 'SYSTEM') -or ($env:USERPROFILE -like " ++
     "'*\\system32\\config\\systemprofile')",
   "$hkcuRemapped = $false",
   ""] ++
  Fragment.scope "if ($runningAsSystem)"
    (["Write-Log \"Running as SYSTEM, locating the logged-on user...\" \"INFO\"",
      "$targetUser = Get-TargetUser"] ++
     Fragment.scope "if (-not $targetUser)"
       ["Write-Log \"No logged-on user found, user customizations deferred\" \"WARNING\"",
        "exit 1"] ++
     ["$userSID = Get-UserSID -Username $targetUser"] ++
     Fragment.scope "if (-not $userSID)"
       ["Write-Log \"Could not resolve SID for user: $targetUser\" \"ERROR\"",
        "exit 1"] ++
     Fragment.scope "if (-not (Get-PSDrive -Name HKU -ErrorAction SilentlyContinue))"
       ["New-PSDrive -Name HKU -PSProvider Registry -Root HKEY_USERS -Scope Global | " ++
          "Out-Null"] ++
     ["Remove-PSDrive -Name HKCU -Force -ErrorAction SilentlyContinue",
      "New-PSDrive -Name HKCU -PSProvider Registry -Root \"HKEY_USERS\\$userSID\" -Scope " ++
        "Global | Out-Null",
      "$hkcuRemapped = $true",
      "Write-Log \"HKCU mapped to $targetUser ($userSID)\" \"SUCCESS\""]) ++
  ["$markerPath = '" ++ markerKey ++ "'",
   "$marker = Get-ItemProperty -Path $markerPath -Name '" ++ markerValue ++
     "' -ErrorAction SilentlyContinue",
   "$alreadyApplied = ($marker -and $marker." ++ markerValue ++ " -eq 1)"] ++
  Fragment.scope "if ($alreadyApplied)"
    ["Write-Log 'User customizations already applied for this user, skipping' 'INFO'"] ++
  [""]

/-- Finds the user and reads the marker. -/
def prologue : List Step := prologueText.steps

/-- Sets the marker. -/
def marker : List Step := [
  .line ("Set-RegistryValue -Path '" ++ markerKey ++ "' -Name '" ++ markerValue ++
    "' -Type 'DWord' -Value 1 -Description 'Mark user customizations applied'")]

/-- The text that restores the registry, removes the task and restarts the machine. -/
def epilogueText : Fragment :=
  [""] ++
  Fragment.scope "if ($hkcuRemapped)"
    ["Remove-PSDrive -Name HKCU -Force -ErrorAction SilentlyContinue",
     "New-PSDrive -Name HKCU -PSProvider Registry -Root HKEY_CURRENT_USER -Scope Global | " ++
       "Out-Null"] ++
  ["Unregister-ScheduledTask -TaskName " ++ Literal.quote taskName ++ " -TaskPath '" ++
     taskFolder ++ "\\' -Confirm:$false -ErrorAction SilentlyContinue",
   "Write-Log 'Removed scheduled task: " ++ taskName ++ "' 'INFO'",
   ""] ++
  Fragment.scope "if (-not $alreadyApplied)"
    ["Write-Log 'Restarting in 20 seconds to apply user customizations...' 'INFO'",
     "shutdown.exe /r /t 20 /c \"Winhance is restarting your computer to apply user " ++
       "customizations\""]

/-- Restores the registry, removes the task and restarts the machine. -/
def epilogue : List Step := epilogueText.steps

end Provision.Logon
