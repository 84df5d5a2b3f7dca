import Provision.Registry.Literal
import Provision.Script.Fragment

/-!
# The opening and the end of a script

* `Opening.header`: the help text and the parameters.
* `Opening.logging`: the function that writes the log, and the first entries.
* `Opening.helpers`: the functions that registry statements call.
* `Opening.footer`: the last entries.

All of them are verbatim.
-/

namespace Provision.Opening

/-- Where the script writes its log. -/
def defaultLogPath : String :=
  "C:\\ProgramData\\Winhance\\Unattend\\Logs\\Winhancements.txt"

/-- Where the script is run from at a logon. -/
def defaultScriptPath : String :=
  "C:\\ProgramData\\Winhance\\Unattend\\Scripts\\Winhancements.ps1"

/-- The name of the script. -/
def scriptName : String := "Winhancements.ps1"

/-- The switch that asks for the user phase. -/
def userSwitch : String := "UserCustomizations"

/-- The help text and the parameters. -/
def headerText (logPath : String) : Fragment :=
  ["<#",
   ".SYNOPSIS",
   "    Winhance Windows 10/11 Customization and Optimization Script",
   ".DESCRIPTION",
   "    Applies registry settings, app removals, optimizations and customizations.",
   "    Machine-wide settings run when the script is invoked without switches.",
   "    Per-user (HKCU) settings run at first logon through a scheduled task that",
   "    re-invokes this script with -" ++ userSwitch ++ ".",
   ".NOTES",
   "    Requires Administrator privileges",
   "    Compatible with Windows 10 and Windows 11",
   "    Logs all activities to " ++ logPath,
   ".PARAMETER " ++ userSwitch,
   "    When specified, applies ONLY HKCU (user-specific) registry settings.",
   "    When not specified, applies all settings EXCEPT HKCU entries.",
   "    User customizations apply once per user. To re-apply, delete:",
   "    HKCU\\Software\\Winhance\\UserCustomizationsApplied",
   ".EXAMPLE",
   "    .\\" ++ scriptName,
   ".EXAMPLE",
   "    .\\" ++ scriptName ++ " -" ++ userSwitch,
   "#>",
   ""] ++
  Fragment.list "param"
    ["[switch]$" ++ userSwitch]

/-- The function that writes the log, and the first entries. -/
def loggingText (logPath : String) : Fragment :=
  ["",
   "# ============================================================================",
   "# LOGGING SETUP",
   "# ============================================================================",
   "",
   "$LogPath = '" ++ Literal.escape logPath ++ "'",
   "$null = New-Item -Path (Split-Path $LogPath) -ItemType Directory -Force",
   ""] ++
  Fragment.scope "function Write-Log"
    (Fragment.list "param"
       ["[string]$Message,",
        "[ValidateSet(\"INFO\", \"SUCCESS\", \"WARNING\", \"ERROR\")]",
        "[string]$Level = \"INFO\""] ++
     ["",
      "$Timestamp = Get-Date -Format \"yyyy-MM-dd HH:mm:ss\"",
      "Add-Content -Path $LogPath -Value \"[$Timestamp] [$Level] $Message\" -Encoding UTF8"]) ++
  ["",
   "Write-Log " ++
     "\"================================================================================\" " ++
     "\"INFO\"",
   "Write-Log \"Winhance Windows Optimization & Customization Script Started\" \"INFO\"",
   "Write-Log \"Script Path: $($MyInvocation.MyCommand.Path)\" \"INFO\"",
   "Write-Log \"Log File: $LogPath\" \"INFO\""] ++
  Fragment.branches [
    ("if ($" ++ userSwitch ++ ")",
      ["Write-Log \"MODE: User Customizations Only (HKCU registry entries)\" \"INFO\""]),
    ("else",
      ["Write-Log \"MODE: System Customizations (All settings except HKCU entries)\" " ++
         "\"INFO\""])] ++
  ["Write-Log " ++
     "\"================================================================================\" " ++
     "\"INFO\"",
   ""]

/-- The functions that registry statements call. -/
def helperText : Fragment :=
  ["",
   "# ============================================================================",
   "# HELPER FUNCTIONS",
   "# ============================================================================",
   ""] ++
  Fragment.scope "function Get-TargetUser"
    (Fragment.attempt
       (["$user = Get-CimInstance Win32_ComputerSystem | Select-Object -ExpandProperty " ++
           "UserName"] ++
        Fragment.scope "if ($user -and $user -ne \"NT AUTHORITY\\SYSTEM\")"
          (["$username = $user.Split('\\')[-1]"] ++
           Fragment.scope "if ($username -ne \"defaultuser0\")"
             ["return $username"])) ++
     [""] ++
     Fragment.attempt
       (["$explorer = Get-CimInstance Win32_Process -Filter \"Name = 'explorer.exe'\" | " ++
           "Select-Object -First 1"] ++
        Fragment.scope "if ($explorer)"
          (["$owner = Invoke-CimMethod -InputObject $explorer -MethodName GetOwner"] ++
           Fragment.scope "if ($owner.User -and $owner.User -ne \"defaultuser0\")"
             ["return $owner.User"])) ++
     ["",
      "return $null"]) ++
  [""] ++
  Fragment.scope "function Get-UserSID"
    (["param([string]$Username)"] ++
     Fragment.attempt
       (["$profileList = 'HKLM:\\SOFTWARE\\Microsoft\\Windows " ++
           "NT\\CurrentVersion\\ProfileList'"] ++
        Fragment.scope ("foreach ($key in Get-ChildItem $profileList -ErrorAction " ++
                          "SilentlyContinue)")
          (["$profilePath = (Get-ItemProperty $key.PSPath -ErrorAction " ++
              "SilentlyContinue).ProfileImagePath"] ++
           Fragment.scope "if ($profilePath -and $profilePath.EndsWith(\"\\$Username\"))"
             ["return $key.PSChildName"])) ++
     ["return $null"]) ++
  [""] ++
  Fragment.scope "function Set-RegistryValue"
    (Fragment.list "param"
       ["[string]$Path,",
        "[string]$Name,",
        "[string]$Type,",
        "$Value,",
        "[string]$Description"] ++
     [""] ++
     Fragment.branches [
       ("try",
         Fragment.scope "if (-not (Test-Path $Path))"
           ["New-Item -Path $Path -Force | Out-Null"] ++
         ["Set-ItemProperty -Path $Path -Name $Name -Value $Value -Type $Type -Force",
          "Write-Log \"$Description | $Path\\$Name = $Value\" \"SUCCESS\""]),
       ("catch",
         ["Write-Log \"Failed to set $Path\\$Name : $($_.Exception.Message)\" \"ERROR\""])]) ++
  [""] ++
  Fragment.scope "function Remove-RegistryValue"
    (Fragment.list "param"
       ["[string]$Path,",
        "[string]$Name,",
        "[string]$Description"] ++
     [""] ++
     Fragment.branches [
       ("try",
         Fragment.scope "if (Test-Path $Path)"
           (["$existing = Get-ItemProperty -Path $Path -Name $Name -ErrorAction " ++
               "SilentlyContinue"] ++
            Fragment.scope "if ($existing)"
              ["Remove-ItemProperty -Path $Path -Name $Name -ErrorAction SilentlyContinue",
               "Write-Log \"$Description | Removed $Path\\$Name\" \"SUCCESS\""])),
       ("catch",
         ["Write-Log \"Failed to remove $Path\\$Name : $($_.Exception.Message)\" \"ERROR\""])]) ++
  [""] ++
  Fragment.scope "function New-RegistryKey"
    (Fragment.list "param"
       ["[string]$Path,",
        "[string]$Description"] ++
     [""] ++
     Fragment.branches [
       ("try",
         Fragment.scope "if (-not (Test-Path $Path))"
           ["New-Item -Path $Path -Force | Out-Null",
            "Write-Log \"$Description | Created key $Path\" \"SUCCESS\""]),
       ("catch",
         ["Write-Log \"Failed to create key $Path : $($_.Exception.Message)\" \"ERROR\""])]) ++
  [""] ++
  Fragment.scope "function Remove-RegistryKey"
    (Fragment.list "param"
       ["[string]$Path,",
        "[string]$Description"] ++
     [""] ++
     Fragment.branches [
       ("try",
         Fragment.scope "if (Test-Path $Path)"
           ["Remove-Item -Path $Path -Recurse -Force -ErrorAction SilentlyContinue",
            "Write-Log \"$Description | Removed key $Path\" \"SUCCESS\""]),
       ("catch",
         ["Write-Log \"Failed to remove key $Path : $($_.Exception.Message)\" \"ERROR\""])]) ++
  [""] ++
  Fragment.scope "function Get-BinaryValueBytes"
    (Fragment.list "param"
       ["[string]$Path,",
        "[string]$Name,",
        "[int]$ByteIndex"] ++
     [""] ++
     Fragment.scope "if (-not (Test-Path $Path))"
       ["New-Item -Path $Path -Force | Out-Null"] ++
     ["$current = Get-ItemProperty -Path $Path -Name $Name -ErrorAction SilentlyContinue"] ++
     Fragment.scope "if ($null -eq $current -or $null -eq $current.$Name)"
       ["return ,(New-Object byte[] ([Math]::Max(12, $ByteIndex + 1)))"] ++
     ["$bytes = [byte[]]$current.$Name"] ++
     Fragment.scope "if ($bytes.Length -le $ByteIndex)"
       ["$grown = New-Object byte[] ($ByteIndex + 1)",
        "[Array]::Copy($bytes, $grown, $bytes.Length)",
        "$bytes = $grown"] ++
     ["return ,$bytes"]) ++
  [""] ++
  Fragment.scope "function Set-BinaryBit"
    (Fragment.list "param"
       ["[string]$Path,",
        "[string]$Name,",
        "[int]$ByteIndex,",
        "[byte]$BitMask,",
        "[bool]$SetBit,",
        "[string]$Description"] ++
     [""] ++
     Fragment.branches [
       ("try",
         ["$bytes = Get-BinaryValueBytes -Path $Path -Name $Name -ByteIndex $ByteIndex"] ++
         Fragment.branches [
           ("if ($SetBit)",
             ["$bytes[$ByteIndex] = $bytes[$ByteIndex] -bor $BitMask"]),
           ("else",
             ["$bytes[$ByteIndex] = $bytes[$ByteIndex] -band (-bnot $BitMask)"])] ++
         ["Set-ItemProperty -Path $Path -Name $Name -Value $bytes -Type Binary -Force",
          "Write-Log \"$Description | $Path\\$Name mask 0x$($BitMask.ToString('X2')) at " ++
            "byte $ByteIndex = $SetBit\" \"SUCCESS\""]),
       ("catch",
         ["Write-Log \"Failed to modify binary bit $Path\\$Name : " ++
            "$($_.Exception.Message)\" \"ERROR\""])]) ++
  [""] ++
  Fragment.scope "function Set-BinaryByte"
    (Fragment.list "param"
       ["[string]$Path,",
        "[string]$Name,",
        "[int]$ByteIndex,",
        "[byte]$ByteValue,",
        "[string]$Description"] ++
     [""] ++
     Fragment.branches [
       ("try",
         ["$bytes = Get-BinaryValueBytes -Path $Path -Name $Name -ByteIndex $ByteIndex",
          "$bytes[$ByteIndex] = $ByteValue",
          "Set-ItemProperty -Path $Path -Name $Name -Value $bytes -Type Binary -Force",
          "Write-Log \"$Description | $Path\\$Name byte $ByteIndex = " ++
            "0x$($ByteValue.ToString('X2'))\" \"SUCCESS\""]),
       ("catch",
         ["Write-Log \"Failed to modify binary byte $Path\\$Name : " ++
            "$($_.Exception.Message)\" \"ERROR\""])]) ++
  [""]

/-- The last entries of the log. -/
def footerText : Fragment :=
  ["",
   "Write-Log " ++
     "\"================================================================================\" " ++
     "\"INFO\"",
   "Write-Log \"Winhance Windows Optimization & Customization Script Completed\" " ++
     "\"SUCCESS\"",
   "Write-Log " ++
     "\"================================================================================\" " ++
     "\"INFO\"",
   ""]

/-- Writes the help text and the parameters. -/
def header (logPath : String) : List Step := [.raw (headerText logPath).text]

/-- Writes the function that writes the log, and the first entries. -/
def logging (logPath : String) : List Step := [.raw (loggingText logPath).text]

/-- Writes the functions that registry statements call. -/
def helpers : List Step := [.raw helperText.text]

/-- Writes the last entries of the log. -/
def footer : List Step := [.raw footerText.text]

end Provision.Opening
