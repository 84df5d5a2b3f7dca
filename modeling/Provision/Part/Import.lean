import Provision.Catalog.Basic
import Provision.Journal.Draft
import Provision.Registry.Literal
import Provision.Script.Step

/-!
# Registry files

* `RegistryFile.phaseOf`: the phase that imports a registry file, by the keys its text mentions.
* `RegistryFile.contentPhase?`: the same for a payload of the catalogue, which may be no text.
* `RegistryFile.steps`: writes a registry file to disk and imports it.
-/

namespace Provision.RegistryFile

/-- The phase that imports a text: the user phase if it mentions the user's registry anywhere. -/
def phaseOf (content : String) : Phase :=
  let folded := Text.upperChars content.toList
  if Phase.userHives.any fun hive => Text.occursIn hive.toList folded then .user else .system

/-- The text of a payload with the phase that imports it; an empty payload has none, and all others
have to be texts. -/
def contentPhase? : Value → Except Misfit (Option (String × Phase))
  | .str s => .ok (if s = "" then none else some (s, phaseOf s))
  | .bytes bs => if bs.isEmpty then .ok none else .error .wrongKind
  | v => if v.isTruthy then .error .lacksPart else .ok none

/-- The variable that holds the text of a setting's registry file. -/
def variableOf (setting : String) : String := "$regContent_" ++ Literal.identifier setting

/-- Turns the keys of the current user into those of the user found before, where the registry is
mapped. -/
def remapSteps (name : String) : List Step := [
  .line "if ($hkcuRemapped) \x7b",
  .line ("    " ++ name ++ " = " ++ name ++
    " -replace '(?m)^\\[(-?)HKEY_CURRENT_USER', ('[$\x7b1\x7dHKEY_USERS\\' + $userSID)"),
  .line "\x7d"]

/-- Writes a registry file to disk, imports it and removes it again. -/
def steps (s : Setting) (phase : Phase) (content : String) : List Step :=
  let name := variableOf s.id
  let description := Literal.escape s.description
  [.line "try \x7b",
    .indented 1 (
      .hereString name content ::
      (if phase = .user then remapSteps name else []) ++ [
      .line ("$tempRegFile = Join-Path $env:TEMP \"winhance_" ++ s.id ++
        "_$((Get-Date).Ticks).reg\""),
      .line (name ++ " | Out-File -FilePath $tempRegFile -Encoding Unicode -Force"),
      .line "reg import \"$tempRegFile\" 2>&1 | Out-Null",
      .line "if ($LASTEXITCODE -eq 0) \x7b",
      .line ("    Write-Log '" ++ description ++ "' 'SUCCESS'"),
      .line "\x7d else \x7b",
      .line ("    Write-Log 'Failed to import registry content for " ++ description ++ "' 'ERROR'"),
      .line "\x7d",
      .line "Remove-Item $tempRegFile -Force -ErrorAction SilentlyContinue"]),
    .line "\x7d catch \x7b",
    .line ("    Write-Log ('Error importing registry content for " ++ description ++
      ": ' + $_.Exception.Message) 'ERROR'"),
    .line "\x7d",
    .blank]

end Provision.RegistryFile
