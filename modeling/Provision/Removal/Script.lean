import Provision.Part.Logon
import Provision.Removal.Plan

/-!
# The removal script

* `Removal.scriptSteps`, `Removal.script`: the script that removes what a plan lists. It runs once
  during setup and once more at a logon, after which it removes its own task.
-/

namespace Provision.Removal

/-- The name of the task that runs the removal script again. -/
def taskName : String := "WinhanceAppRemoval"

/-- The name of the removal script. -/
def scriptName : String := "AppRemoval.ps1"

/-- Where the removal script writes its log. -/
def logPath : String := "C:\\ProgramData\\Winhance\\Logs\\AppRemovalLog.txt"

/-- The help text and the parameter. -/
def headText : Fragment :=
  ["<#",
   ".SYNOPSIS",
   "    Removes selected Windows apps, capabilities and optional features.",
   ".DESCRIPTION",
   "    Runs once during setup and once more at first logon through the",
   "    WinhanceAppRemoval scheduled task, which removes itself afterwards.",
   "#>"] ++
  Fragment.list "param"
    ["[switch]$ScheduledRun"] ++
  [""]

/-- The function that writes the log. -/
def loggingText : Fragment :=
  ["$logFile = " ++ Literal.quote logPath] ++
  ["$null = New-Item -Path (Split-Path $logFile) -ItemType Directory -Force",
   ""] ++
  Fragment.scope "function Write-Log"
    ["param([string]$Message)",
     "\"$(Get-Date -Format 'yyyy-MM-dd HH:mm:ss') - $Message\" | Out-File -FilePath " ++
       "$logFile -Append -Encoding UTF8"] ++
  ["",
   "Write-Log \"Starting app removal (scheduled run: $ScheduledRun)\""] ++
  [""]

/-- The array of names that a variable holds. -/
def arraySteps (name : String) (values : List String) : List Step := [
  .line ("$" ++ name ++ " = @("),
  .indented 1 (values.map fun v => .line (Literal.quote v)),
  .line ")",
  .blank]

/-- The text that removes what the arrays list. -/
def genericText : Fragment :=
  ["# Appx packages: deprovision first so -AllUsers removal succeeds on Windows 10",
   "$allInstalled = Get-AppxPackage -AllUsers -ErrorAction SilentlyContinue",
   "$allProvisioned = Get-AppxProvisionedPackage -Online -ErrorAction SilentlyContinue"] ++
  Fragment.scope "foreach ($package in $packages)"
    (Fragment.scope ("foreach ($prov in @($allProvisioned | Where-Object DisplayName -eq " ++
                       "$package))")
       (Fragment.branches [
          ("try",
            ["Remove-AppxProvisionedPackage -Online -PackageName $prov.PackageName " ++
               "-ErrorAction Stop | Out-Null",
             "Write-Log \"Deprovisioned: $($prov.PackageName)\""]),
          ("catch",
            ["Write-Log \"Failed to deprovision $($prov.PackageName): " ++
               "$($_.Exception.Message)\""])]) ++
     Fragment.scope "foreach ($pkg in @($allInstalled | Where-Object Name -eq $package))"
       (Fragment.branches [
          ("try",
            ["Remove-AppxPackage -Package $pkg.PackageFullName -AllUsers -ErrorAction Stop",
             "Write-Log \"Removed package: $($pkg.PackageFullName)\""]),
          ("catch",
            ["Write-Log \"Failed to remove $($pkg.PackageFullName): " ++
               "$($_.Exception.Message)\""])])) ++
  ["",
   "# Capabilities",
   "$allCaps = Get-WindowsCapability -Online -ErrorAction SilentlyContinue"] ++
  Fragment.scope "foreach ($capability in $capabilities)"
    (["$matching = @($allCaps | Where-Object \x7b $_.Name -like \"$capability*\" -and " ++
        "$_.State -eq \"Installed\" \x7d)"] ++
     Fragment.scope "if (-not $matching)"
       ["Write-Log \"Capability not found or not installed: $capability\"",
        "continue"] ++
     Fragment.scope "foreach ($cap in $matching)"
       (Fragment.branches [
          ("try",
            ["Remove-WindowsCapability -Online -Name $cap.Name -ErrorAction Stop | Out-Null",
             "Write-Log \"Removed capability: $($cap.Name)\""]),
          ("catch",
            ["Write-Log \"Failed to remove capability $($cap.Name): " ++
               "$($_.Exception.Message)\""])])) ++
  ["",
   "# Optional features",
   "$enabledFeatures = @()"] ++
  Fragment.scope "foreach ($feature in $optionalFeatures)"
    (["$existing = Get-WindowsOptionalFeature -Online -FeatureName $feature -ErrorAction " ++
        "SilentlyContinue"] ++
     Fragment.branches [
       ("if ($existing -and $existing.State -eq \"Enabled\")",
         ["$enabledFeatures += $feature"]),
       ("else",
         ["Write-Log \"Feature not found or not enabled: $feature\""])]) ++
  Fragment.scope "if ($enabledFeatures.Count -gt 0)"
    ["Write-Log \"Disabling features: $($enabledFeatures -join ', ')\"",
     "Disable-WindowsOptionalFeature -Online -FeatureName $enabledFeatures -NoRestart " ++
       "-ErrorAction SilentlyContinue | Out-Null"] ++
  ["",
   "# Special apps: registry-based uninstall"] ++
  Fragment.list "$uninstallPaths = @"
    ["'HKLM:\\SOFTWARE\\Microsoft\\Windows\\CurrentVersion\\Uninstall',",
     "'HKCU:\\SOFTWARE\\Microsoft\\Windows\\CurrentVersion\\Uninstall'"] ++
  Fragment.scope "foreach ($specialApp in $specialApps)"
    (["Write-Log \"Processing special app: $specialApp\"",
      "Get-Process -Name $specialApp -ErrorAction SilentlyContinue | Stop-Process -Force " ++
        "-ErrorAction SilentlyContinue"] ++
     Fragment.scope "foreach ($basePath in $uninstallPaths)"
       (["$keys = Get-ChildItem -Path $basePath -ErrorAction SilentlyContinue |",
         "    Where-Object \x7b $_.PSChildName -like \"$specialApp*\" \x7d"] ++
        Fragment.scope "foreach ($key in $keys)"
          (["$uninstallString = (Get-ItemProperty -Path $key.PSPath -ErrorAction " ++
              "SilentlyContinue).UninstallString",
            "if (-not $uninstallString) \x7b continue \x7d",
            "$silent = if ($uninstallString -like '*OfficeClickToRun.exe*') \x7b " ++
              "'DisplayLevel=False' \x7d else \x7b '/silent' \x7d"] ++
           Fragment.branches [
             ("if ($uninstallString -match '^\"([^\"]+)\"(.*)$')",
               ["Start-Process -FilePath $matches[1] -ArgumentList \"$($matches[2].Trim()) " ++
                  "$silent\" -NoNewWindow -Wait -ErrorAction SilentlyContinue"]),
             ("else",
               ["Start-Process -FilePath $uninstallString -ArgumentList $silent " ++
                  "-NoNewWindow -Wait -ErrorAction SilentlyContinue"])] ++
           ["Write-Log \"Completed uninstall for $specialApp\""]))) ++
  [""]

/-- The text that turns off what the removal of the overlay leaves on. -/
def overlayText : Fragment :=
  ["# Xbox overlay removal leaves Game DVR capture enabled",
   "reg add \"HKLM\\SOFTWARE\\Policies\\Microsoft\\Windows\\GameDVR\" /f /t REG_DWORD /v " ++
     "\"AllowGameDVR\" /d 0 2>$null | Out-Null",
   "Write-Log \"Disabled Game DVR policy\""] ++
  [""]

/-- The text that removes the browser. -/
def edgeText : Fragment :=
  ["# ---------------------------------------------------------------------",
   "# Microsoft Edge",
   "# ---------------------------------------------------------------------",
   "Write-Log \"Starting Edge removal\""] ++
  Fragment.scope ("foreach ($name in @('msedge', 'MicrosoftEdgeUpdate', 'widgets', " ++
                    "'msedgewebview2'))")
    ["Get-Process -Name $name -ErrorAction SilentlyContinue | Stop-Process -Force " ++
       "-ErrorAction SilentlyContinue"] ++
  ["$edgeDevKey = 'HKLM:\\SOFTWARE\\Microsoft\\EdgeUpdateDev'",
   "if (-not (Test-Path $edgeDevKey)) \x7b New-Item -Path $edgeDevKey -Force | Out-Null " ++
     "\x7d",
   "Set-ItemProperty -Path $edgeDevKey -Name 'AllowUninstall' -Value '' -Type String -Force",
   ""] ++
  Fragment.list "$edgeUninstallRoots = @"
    ["'HKLM:\\SOFTWARE\\Microsoft\\Windows\\CurrentVersion\\Uninstall',",
     "'HKLM:\\SOFTWARE\\WOW6432Node\\Microsoft\\Windows\\CurrentVersion\\Uninstall'"] ++
  Fragment.scope "foreach ($root in $edgeUninstallRoots)"
    (["$edgeKey = Join-Path $root 'Microsoft Edge'",
      "$uninstallString = (Get-ItemProperty -Path $edgeKey -ErrorAction " ++
        "SilentlyContinue).UninstallString"] ++
     Fragment.scope "if ($uninstallString -match '^\"([^\"]+)\"(.*)$')"
       ["Start-Process -FilePath $matches[1] -ArgumentList \"$($matches[2].Trim()) " ++
          "--force-uninstall --silent\" -Wait -NoNewWindow -ErrorAction SilentlyContinue",
        "Write-Log \"Executed Edge uninstaller from $root\""]) ++
  ["",
   "Get-AppxPackage -AllUsers -Name 'Microsoft.MicrosoftEdge*' -ErrorAction " ++
     "SilentlyContinue |",
   "    Remove-AppxPackage -AllUsers -ErrorAction SilentlyContinue",
   ""] ++
  Fragment.list "$edgeShortcuts = @"
    ["\"$env:PUBLIC\\Desktop\\Microsoft Edge.lnk\",",
     "\"$env:ProgramData\\Microsoft\\Windows\\Start Menu\\Programs\\Microsoft Edge.lnk\",",
     "'C:\\Users\\Default\\Desktop\\Microsoft Edge.lnk'"] ++
  Fragment.scope "foreach ($shortcut in $edgeShortcuts)"
    ["Remove-Item -Path $shortcut -Force -ErrorAction SilentlyContinue"] ++
  ["",
   "$edgeUpdatePolicy = 'HKLM:\\SOFTWARE\\Policies\\Microsoft\\EdgeUpdate'",
   "if (-not (Test-Path $edgeUpdatePolicy)) \x7b New-Item -Path $edgeUpdatePolicy -Force | " ++
     "Out-Null \x7d",
   "Set-ItemProperty -Path $edgeUpdatePolicy -Name 'DoNotUpdateToEdgeWithChromium' -Value " ++
     "1 -Type DWord -Force",
   "Write-Log \"Edge removal completed\""] ++
  [""]

/-- The text that removes the file synchronisation. -/
def oneDriveText : Fragment :=
  ["# ---------------------------------------------------------------------",
   "# OneDrive",
   "# ---------------------------------------------------------------------",
   "Write-Log \"Starting OneDrive removal\"",
   "Stop-Process -Name '*OneDrive*' -Force -ErrorAction SilentlyContinue",
   "Get-AppxPackage -AllUsers -Name '*OneDrive*' -ErrorAction SilentlyContinue |",
   "    Remove-AppxPackage -AllUsers -ErrorAction SilentlyContinue",
   ""] ++
  Fragment.list "$oneDriveSetups = @"
    ["\"$env:SystemRoot\\System32\\OneDriveSetup.exe\",",
     "\"$env:SystemRoot\\SysWOW64\\OneDriveSetup.exe\""] ++
  Fragment.scope "foreach ($setup in $oneDriveSetups)"
    (Fragment.scope "if (Test-Path $setup)"
       ["Start-Process -FilePath $setup -ArgumentList '/uninstall' -Wait -NoNewWindow " ++
          "-ErrorAction SilentlyContinue",
        "Write-Log \"Executed OneDrive uninstaller: $setup\""]) ++
  ["",
   "$oneDriveUninstall = " ++
     "'HKLM:\\SOFTWARE\\Microsoft\\Windows\\CurrentVersion\\Uninstall\\OneDriveSetup.exe'",
   "$uninstallString = (Get-ItemProperty -Path $oneDriveUninstall -ErrorAction " ++
     "SilentlyContinue).UninstallString"] ++
  Fragment.scope "if ($uninstallString -match '^\"([^\"]+)\"(.*)$')"
    ["Start-Process -FilePath $matches[1] -ArgumentList $matches[2].Trim() -Wait " ++
       "-NoNewWindow -ErrorAction SilentlyContinue",
     "Write-Log \"Executed registered OneDrive uninstaller\""] ++
  ["",
   "# Keep new profiles from reinstalling OneDrive",
   "reg load 'HKU\\WinhanceDefault' 'C:\\Users\\Default\\NTUSER.DAT' 2>$null | Out-Null",
   "reg delete 'HKU\\WinhanceDefault\\SOFTWARE\\Microsoft\\Windows\\CurrentVersion\\Run' " ++
     "/v 'OneDriveSetup' /f 2>$null | Out-Null",
   "[gc]::Collect()",
   "reg unload 'HKU\\WinhanceDefault' 2>$null | Out-Null",
   "",
   "Remove-Item -Path \"$env:ProgramData\\Microsoft\\Windows\\Start " ++
     "Menu\\Programs\\OneDrive.lnk\" -Force -ErrorAction SilentlyContinue",
   "Write-Log \"OneDrive removal completed\""] ++
  [""]

/-- The text that removes the task after a run that it started. -/
def tailText : Fragment :=
  Fragment.scope "if ($ScheduledRun)"
    ["Unregister-ScheduledTask -TaskName " ++ Literal.quote taskName ++ " -TaskPath " ++
       Literal.quote (Logon.taskFolder ++ "\\") ++
       " -Confirm:$false -ErrorAction SilentlyContinue",
     "Write-Log \"Removed scheduled task after first logon run\""] ++
  ["Write-Log \"App removal completed\""]

/-- The arrays of a plan and what removes their items. -/
def genericSteps (plan : RemovalPlan) : List Step :=
  arraySteps "packages" plan.packages ++ arraySteps "capabilities" plan.capabilities ++
    arraySteps "optionalFeatures" plan.features ++ arraySteps "specialApps" plan.special ++
    genericText.steps ++ (if plan.includesOverlay then overlayText.steps else [])

/-- The steps that write the removal script of a plan. -/
def scriptSteps (plan : RemovalPlan) : List Step :=
  headText.steps ++ loggingText.steps ++
    (if plan.hasGeneric then genericSteps plan else []) ++
    (if plan.edge then edgeText.steps else []) ++
    (if plan.oneDrive then oneDriveText.steps else []) ++ tailText.steps

/-- The removal script of a plan. -/
def script (plan : RemovalPlan) : String := Step.render (scriptSteps plan)

end Provision.Removal
