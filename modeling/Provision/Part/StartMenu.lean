import Provision.Script.Fragment

/-!
# The layout of the start menu

* `StartMenu.layout`: clears the pins on Windows 11 and writes an empty layout on Windows 10; which
  of them is decided where the script runs.
-/

namespace Provision.StartMenu

/-- The policy key that takes the pins. -/
def policyKey : String := "HKLM:\\SOFTWARE\\Microsoft\\PolicyManager\\current\\device\\Start"

/-- The folder of the layout in the default profile. -/
def shellFolder : String := "C:\\Users\\Default\\AppData\\Local\\Microsoft\\Windows\\Shell"

/-- A layout without tiles. -/
def emptyLayout : Fragment :=
  ["<LayoutModificationTemplate " ++
     "xmlns:defaultlayout=\"http://schemas.microsoft.com/Start/2014/FullDefaultLayout\" " ++
     "xmlns:start=\"http://schemas.microsoft.com/Start/2014/StartLayout\" Version=\"1\" " ++
     "xmlns=\"http://schemas.microsoft.com/Start/2014/LayoutModification\">",
   "    <LayoutOptions StartTileGroupCellWidth=\"6\" />",
   "    <DefaultLayoutOverride>",
   "        <StartLayoutCollection>",
   "            <defaultlayout:StartLayout GroupCellWidth=\"6\" />",
   "        </StartLayoutCollection>",
   "    </DefaultLayoutOverride>",
   "</LayoutModificationTemplate>"]

/-- Writes the layout file. -/
def writeText : Fragment :=
  Fragment.branches [
    ("try",
      Fragment.scope "if (-not (Test-Path $layoutDir))"
        ["New-Item -ItemType Directory -Path $layoutDir -Force | Out-Null"] ++
      ["$layoutXml | Out-File -FilePath $layoutPath -Encoding UTF8 -Force",
       "Write-Log \"Start Menu layout written: $layoutPath\" \"SUCCESS\""]),
    ("catch",
      ["Write-Log \"Failed to write Start Menu layout: $($_.Exception.Message)\" \"ERROR\""])]

/-- Clears the start menu. -/
def layout : List Step := [
  .banner "START MENU LAYOUT",
  .line "$buildNumber = [System.Environment]::OSVersion.Version.Build",
  .line "if ($buildNumber -ge 22000) \x7b",
  .indented 1 [
    .line "Write-Log 'Windows 11 detected, clearing Start Menu pins...' 'INFO'",
    .line ("Set-RegistryValue -Path '" ++ policyKey ++ "' -Name 'ConfigureStartPins' " ++
      "-Type 'String' -Value '\x7b\"pinnedList\":[]\x7d' -Description 'Clear Start Menu pins'")],
  .line "\x7d else \x7b",
  .indented 1 ([
    .line "Write-Log 'Windows 10 detected, writing Start Menu layout...' 'INFO'",
    .line ("$layoutDir = '" ++ shellFolder ++ "'"),
    .line "$layoutPath = Join-Path $layoutDir 'LayoutModification.xml'",
    .hereString "$layoutXml" emptyLayout.text] ++ writeText.steps),
  .line "\x7d",
  .blank]

end Provision.StartMenu
