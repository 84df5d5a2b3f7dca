import Mathlib
import Provision.Proofs.UserDrive

/-!
# Drive forms keep their phase

Upper case may be longer than the path, so that more than the hive is cut off its front. The drive
form and the phase both look at what the upper case begins with, where the spellings of hives and
drives are told apart.

* `KeyPath.Shows`: texts that tell the phase of every path whose upper case begins with them.
* `KeyPath.shows_hive`, `KeyPath.shows_drive`: a hive and its drive tell the same phase.
* **`KeyPath.toDrive_keeps_phase`**: the drive form of a path is its own drive form and has the
  phase of the path, which its drive tells.
-/

namespace Provision.KeyPath

/-- The drives of the hives, each with the phase that owns what lies there. -/
def drivePhases : List (String × Phase) :=
  [("HKCU:\\", .user), ("HKLM:\\", .system), ("HKCR:\\", .system), ("HKU:\\", .system)]

variable {drive : String × Phase} {hive : String × String} {path : String}

/-! ## What tells a phase -/

/-- A text tells the phase of all that begins with it: it has no blanks, and either begins with a
hive of the user or differs from all of them where both have characters. -/
structure Shows (start : List Char) (phase : Phase) : Prop where
  ne_nil : start ≠ []
  not_isBlank : ∀ c ∈ start, Text.isBlank c = false
  user_of_comparable : ∀ hive ∈ Phase.userHives,
    hive.toList <+: start ∨ start <+: hive.toList → phase = .user
  exists_of_user : phase = .user → ∃ hive ∈ Phase.userHives, hive.toList <+: start

theorem Shows.ofKeyPath_eq {start : List Char} {phase : Phase} (hshows : Shows start phase)
    (h : start <+: Text.upperChars path.toList) : Phase.ofKeyPath path = phase := by
  have hhead := not_isBlank_of_prefix hshows.ne_nil hshows.not_isBlank h
  have htrim := (prefix_upperChars_trim_iff hshows.not_isBlank hhead).mp h
  have huser : Phase.ofKeyPath path = .user ↔ phase = .user := by
    rw [ofKeyPath_eq_user_iff]
    constructor
    · rintro ⟨hive, hhive, hbegin⟩
      exact hshows.user_of_comparable hive hhive (List.prefix_or_prefix_of_prefix hbegin htrim)
    · intro hphase
      obtain ⟨hive, hhive, hbegin⟩ := hshows.exists_of_user hphase
      exact ⟨hive, hhive, hbegin.trans htrim⟩
  cases hpath : Phase.ofKeyPath path <;> cases phase <;> simp_all

/-- The spellings of the hives and the drives, with the phases that they tell. -/
def fronts : List (String × Phase) :=
  drivePhases ++ hives.flatMap fun hive =>
    (drivePhases.filter fun drive => drive.1 = hive.2).map fun drive => (hive.1, drive.2)

theorem shows_of_mem_fronts {front : String × Phase} (h : front ∈ fronts) :
    Shows front.1.toList front.2 := by
  have hne : ∀ front ∈ fronts, front.1.toList ≠ [] := by decide
  have hplain : ∀ front ∈ fronts, front.1.toList.all (fun c => !Text.isBlank c) = true := by
    decide
  have huser : ∀ front ∈ fronts, ∀ hive ∈ Phase.userHives,
      hive.toList <+: front.1.toList ∨ front.1.toList <+: hive.toList → front.2 = .user := by
    decide +kernel
  have hexists : ∀ front ∈ fronts, front.2 = .user →
      ∃ hive ∈ Phase.userHives, hive.toList <+: front.1.toList := by decide +kernel
  refine ⟨hne front h, fun c hc => ?_, huser front h, hexists front h⟩
  simpa using List.all_eq_true.mp (hplain front h) c hc

theorem shows_drive (hdrive : drive ∈ drivePhases) : Shows drive.1.toList drive.2 :=
  shows_of_mem_fronts (List.mem_append_left _ hdrive)

theorem shows_hive (hhive : hive ∈ hives) :
    ∃ drive ∈ drivePhases, drive.1 = hive.2 ∧ Shows hive.1.toList drive.2 := by
  have hmounted : ∀ hive ∈ hives, ∃ drive ∈ drivePhases, drive.1 = hive.2 ∧
      (hive.1, drive.2) ∈ fronts := by decide
  obtain ⟨drive, hdrive, hname, hfront⟩ := hmounted hive hhive
  exact ⟨drive, hdrive, hname, shows_of_mem_fronts hfront⟩

/-! ## Drive forms -/

theorem drive_prefix_upperChars (hdrive : drive ∈ drivePhases)
    (h : drive.1.toList <+: path.toList) : drive.1.toList <+: Text.upperChars path.toList := by
  have hupper : ∀ drive ∈ drivePhases, Text.upperChars drive.1.toList = drive.1.toList := by
    decide +kernel
  obtain ⟨rest, hrest⟩ := h
  rw [← hrest, Text.upperChars_append, hupper drive hdrive]
  exact List.prefix_append _ _

theorem ofKeyPath_of_drive (hdrive : drive ∈ drivePhases)
    (h : drive.1.toList <+: path.toList) : Phase.ofKeyPath path = drive.2 :=
  (shows_drive hdrive).ofKeyPath_eq (drive_prefix_upperChars hdrive h)

theorem hiveOf?_of_drive (hdrive : drive ∈ drivePhases)
    (h : drive.1.toList <+: path.toList) : hiveOf? path.toList = none := by
  have hapart : ∀ drive ∈ drivePhases, ∀ hive ∈ hives,
      ¬ hive.1.toList <+: drive.1.toList ∧ ¬ drive.1.toList <+: hive.1.toList := by decide +kernel
  refine List.find?_eq_none.mpr fun hive hhive hbegin => ?_
  obtain ⟨hno, hno'⟩ := hapart drive hdrive hive hhive
  exact (List.prefix_or_prefix_of_prefix (Text.startsWith_iff.mp hbegin)
    (drive_prefix_upperChars hdrive h)).elim hno hno'

/-- A path that changes begins with a hive, and then with the drive of that hive. -/
theorem toDrive_cases (path : String) : toDrive path = path ∨
    ∃ drive ∈ drivePhases, drive.1.toList <+: (toDrive path).toList ∧
      Phase.ofKeyPath path = drive.2 := by
  unfold toDrive
  cases hhive : hiveOf? path.toList with
  | none => exact .inl rfl
  | some hive =>
    obtain ⟨drive, hdrive, hname, hshows⟩ := shows_hive (List.mem_of_find?_eq_some hhive)
    have hfound := List.find?_some (show hives.find? _ = some hive from hhive)
    refine .inr ⟨drive, hdrive, ?_, hshows.ofKeyPath_eq (Text.startsWith_iff.mp hfound)⟩
    rw [hname, String.toList_append]
    exact List.prefix_append _ _

theorem toDrive_toDrive (path : String) : toDrive (toDrive path) = toDrive path := by
  obtain hsame | ⟨drive, hdrive, hbegin, -⟩ := toDrive_cases path
  · rw [hsame, hsame]
  · rw [toDrive, hiveOf?_of_drive hdrive hbegin]

theorem ofKeyPath_toDrive (path : String) :
    Phase.ofKeyPath (toDrive path) = Phase.ofKeyPath path := by
  obtain hsame | ⟨drive, hdrive, hbegin, hphase⟩ := toDrive_cases path
  · rw [hsame]
  · rw [ofKeyPath_of_drive hdrive hbegin, hphase]

/-- **The drive form of a path is its own drive form and has the phase of the path**; if it begins
with a drive, that is the phase which owns the drive. -/
theorem toDrive_keeps_phase (path : String) :
    toDrive (toDrive path) = toDrive path ∧
      Phase.ofKeyPath (toDrive path) = Phase.ofKeyPath path ∧
      ∀ drive ∈ drivePhases, drive.1.toList <+: (toDrive path).toList →
        Phase.ofKeyPath path = drive.2 := by
  refine ⟨toDrive_toDrive path, ofKeyPath_toDrive path, fun drive hdrive hbegin => ?_⟩
  rw [← ofKeyPath_toDrive, ofKeyPath_of_drive hdrive hbegin]

/-- The upper case of this path is longer than the path, and a letter behind the hive is lost. -/
theorem toDrive_keeps_phase_sharp :
    toDrive "hkey_claßes_root\\AB" = "HKCR:\\B" ∧
      "HKCR:\\".toList <+: (toDrive "hkey_claßes_root\\AB").toList ∧
      Phase.ofKeyPath "hkey_claßes_root\\AB" = .system := by
  have hform : toDrive "hkey_claßes_root\\AB" = "HKCR:\\B" := by decide +kernel
  have hbegin : "HKCR:\\".toList <+: (toDrive "hkey_claßes_root\\AB").toList := by
    rw [hform]
    decide
  exact ⟨hform, hbegin, (toDrive_keeps_phase "hkey_claßes_root\\AB").2.2 ("HKCR:\\", .system)
    (by decide) hbegin⟩

end Provision.KeyPath
