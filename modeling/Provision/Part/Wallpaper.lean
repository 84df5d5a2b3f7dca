import Provision.Script.Fragment

/-!
# The wallpaper

* `Wallpaper.stock`: sets the stock wallpaper for the build and the theme of the target machine.
-/

namespace Provision.Wallpaper

/-- The text that sets the wallpaper. -/
def stockText : Fragment :=
  ["Write-Log \"Setting wallpaper based on Windows version and theme...\" \"INFO\"",
   "$buildNumber = [System.Environment]::OSVersion.Version.Build",
   "$wallpaperPath = $null",
   ""] ++
  Fragment.branches [
    ("if ($buildNumber -ge 22000)",
      ["$themeKey = " ++
         "'HKCU:\\SOFTWARE\\Microsoft\\Windows\\CurrentVersion\\Themes\\Personalize'",
       "$lightTheme = $false"] ++
      Fragment.scope "if (Test-Path $themeKey)"
        (["$value = Get-ItemProperty -Path $themeKey -Name 'SystemUsesLightTheme' " ++
            "-ErrorAction SilentlyContinue"] ++
         Fragment.scope "if ($value.SystemUsesLightTheme -eq 1)"
           ["$lightTheme = $true"]) ++
      Fragment.branches [
        ("if ($lightTheme)",
          ["$wallpaperPath = 'C:\\Windows\\Web\\Wallpaper\\Windows\\img0.jpg'"]),
        ("else",
          ["$wallpaperPath = 'C:\\Windows\\Web\\Wallpaper\\Windows\\img19.jpg'"])]),
    ("else",
      ["$wallpaperPath = 'C:\\Windows\\Web\\4K\\Wallpaper\\Windows\\img0_3840x2160.jpg'"])] ++
  [""] ++
  Fragment.branches [
    ("if (-not (Test-Path $wallpaperPath))",
      ["Write-Log \"Wallpaper file not found: $wallpaperPath\" \"WARNING\""]),
    ("else",
      Fragment.branches [
        ("try",
          ["$desktopKey = 'HKCU:\\Control Panel\\Desktop'",
           "Set-ItemProperty -Path $desktopKey -Name Wallpaper -Value $wallpaperPath -Type " ++
             "String -Force",
           "Set-ItemProperty -Path $desktopKey -Name WallpaperStyle -Value '10' -Type " ++
             "String -Force",
           "Set-ItemProperty -Path $desktopKey -Name TileWallpaper -Value '0' -Type String " ++
             "-Force",
           "Remove-ItemProperty -Path $desktopKey -Name 'TranscodedImageCache' " ++
             "-ErrorAction SilentlyContinue",
           "Remove-ItemProperty -Path $desktopKey -Name 'TranscodedImageCache_000' " ++
             "-ErrorAction SilentlyContinue",
           "Write-Log \"Wallpaper configured: $wallpaperPath\" \"SUCCESS\""]),
        ("catch",
          ["Write-Log \"Failed to set wallpaper: $($_.Exception.Message)\" \"ERROR\""])])]

/-- Sets the stock wallpaper. -/
def stock : List Step := .blank :: stockText.steps ++ [.blank]

end Provision.Wallpaper
