import Mathlib
import Provision.Proofs.Documents

/-!
# Commands that go to the drive of the user

The phase of a target looks at the hive that its path names, whatever blanks stand in front of it
and whatever follows it. The drive form of the path knows a hive only at the very front, and only if
a backslash closes it.

* `KeyPath.IsOnUserDrive`: a path that begins with the drive of the user, in any letter case.
* `KeyPath.IsRooted`: a path whose front is a closed spelling of the user's hive or its drive.
* **`KeyPath.isOnUserDrive_toDrive_iff`**: the drive form of a path is on that drive exactly if the
  path is rooted.
* **`Target.onUserDrive_iff`**: the commands of a target go there exactly if its phase is that of
  the user, no blank stands in front of its path, and the path without blanks is rooted.
-/

namespace Provision

/-! ## Blanks keep their case -/

namespace Text

/-- The code points of the blanks. -/
def blankCodes : List Nat :=
  [0x09, 0x0A, 0x0B, 0x0C, 0x0D, 0x1C, 0x1D, 0x1E, 0x1F, 0x20, 0x85, 0xA0, 0x1680, 0x2000, 0x2001,
    0x2002, 0x2003, 0x2004, 0x2005, 0x2006, 0x2007, 0x2008, 0x2009, 0x200A, 0x2028, 0x2029, 0x202F,
    0x205F, 0x3000]

theorem toNat_mem_blankCodes {c : Char} (h : isBlank c = true) : c.toNat ∈ blankCodes := by
  simp only [isBlank, Bool.or_eq_true, Bool.and_eq_true, decide_eq_true_eq, beq_iff_eq] at h
  simp only [blankCodes, List.mem_cons, List.not_mem_nil, or_false]
  omega

/-- No table of upper case has a blank. The tables are searched as lists, which is fast to check. -/
theorem not_tabled_of_mem_blankCodes : ∀ n ∈ blankCodes, 128 ≤ n →
    (upperRuns.toList.find? fun r =>
      r.first ≤ n && n ≤ r.last && (n - r.first) % r.step == 0).isNone = true ∧
      (upperExpansions.toList.find? fun e => e.1 == n).isNone = true := by decide +kernel

theorem upperChar_of_isBlank {c : Char} (h : isBlank c = true) : upperChar c = [c] := by
  have hc := toNat_mem_blankCodes h
  by_cases hsmall : c.toNat < 128
  · have hall : ∀ n ∈ blankCodes, n < 128 → (Char.ofNat n).toUpper = Char.ofNat n := by decide
    have hupper := hall _ hc hsmall
    rw [Char.ofNat_toNat] at hupper
    rw [upperChar, if_pos hsmall, hupper]
  · obtain ⟨hruns, hexpansions⟩ := not_tabled_of_mem_blankCodes _ hc (by omega)
    rw [Array.find?_toList, Option.isNone_iff_eq_none] at hruns hexpansions
    rw [upperChar, if_neg hsmall, mapCase, caseByRuns, hruns, Option.map_none, hexpansions]

theorem upperChars_of_isBlank {cs : List Char} (h : ∀ c ∈ cs, isBlank c = true) :
    upperChars cs = cs := by
  induction cs with
  | nil => rfl
  | cons c cs ih =>
    obtain ⟨hc, hcs⟩ := List.forall_mem_cons.mp h
    rw [upperChars, List.flatMap_cons, upperChar_of_isBlank hc, ← upperChars, ih hcs]
    rfl

/-- A beginning that shares no character with the end of a list begins what stands before it. -/
theorem prefix_of_prefix_append {start cs tail : List Char} (h : start <+: cs ++ tail)
    (hdisjoint : ∀ c ∈ start, c ∉ tail) : start <+: cs := by
  obtain hstart | ⟨more, hmore⟩ :=
    List.prefix_or_prefix_of_prefix h (List.prefix_append cs tail)
  · exact hstart
  cases more with
  | nil => exact ⟨[], by rw [List.append_nil, ← hmore, List.append_nil]⟩
  | cons c more =>
    obtain ⟨rest, hrest⟩ := h
    rw [← hmore, List.append_assoc] at hrest
    have htail : c :: (more ++ rest) = tail := List.append_cancel_left hrest
    have hc : c ∈ start := by rw [← hmore]; simp
    exact absurd (by rw [← htail]; simp) (hdisjoint c hc)

end Text

/-! ## Rooted paths -/

namespace KeyPath

/-- What a path on the user's drive begins with, in upper case. -/
def userDrive : String := "HKCU:\\"

/-- A path begins with the drive of the user, in any letter case. -/
def IsOnUserDrive (path : String) : Prop := userDrive.toList <+: Text.upperChars path.toList

instance (path : String) : Decidable (IsOnUserDrive path) :=
  inferInstanceAs (Decidable (_ <+: _))

/-- The closed spellings of the user's hive, and the drive it is mounted at, in upper case. -/
def userRoots : List String := ["HKEY_CURRENT_USER\\", "HKCU\\", userDrive]

/-- A path begins with a closed spelling of the user's hive or with its drive. -/
def IsRooted (path : String) : Prop :=
  ∃ root ∈ userRoots, root.toList <+: Text.upperChars path.toList

/-- No two of these spellings begin the same path, unless they are of the user's hive. -/
theorem eq_userDrive_of_prefix {hive : String × String} (hhive : hive ∈ hives) {root : String}
    (hroot : root ∈ userRoots) {cs : List Char} (h : hive.1.toList <+: cs)
    (h' : root.toList <+: cs) : hive.2 = userDrive := by
  have hone := List.prefix_or_prefix_of_prefix h h'
  revert hone
  clear h h' cs
  revert root hive
  decide +kernel

theorem isOnUserDrive_append_iff {hive : String × String} (hhive : hive ∈ hives) (rest : String) :
    IsOnUserDrive (hive.2 ++ rest) ↔ hive.2 = userDrive := by
  have hdrives : ∀ hive ∈ hives, Text.upperChars hive.2.toList = hive.2.toList ∧
      (hive.2.toList <+: userDrive.toList ∨ userDrive.toList <+: hive.2.toList →
        hive.2 = userDrive) := by decide +kernel
  obtain ⟨hupper, heq⟩ := hdrives hive hhive
  rw [IsOnUserDrive, String.toList_append, Text.upperChars_append, hupper]
  constructor
  · intro h
    exact heq (List.prefix_or_prefix_of_prefix (List.prefix_append _ _) h)
  · intro h
    rw [h]
    exact List.prefix_append _ _

/-- **The drive form of a path is on the user's drive exactly if the path is rooted.** -/
theorem isOnUserDrive_toDrive_iff (path : String) :
    IsOnUserDrive (toDrive path) ↔ IsRooted path := by
  unfold toDrive
  cases hhive : hiveOf? path.toList with
  | none =>
    -- no hive is spelt at the front, so the path stays, and can only be on the drive already
    have hnone : ∀ hive ∈ hives, ¬ hive.1.toList <+: Text.upperChars path.toList := by
      intro hive hmem hprefix
      exact List.find?_eq_none.mp hhive hive hmem (Text.startsWith_iff.mpr hprefix)
    constructor
    · intro h
      exact ⟨userDrive, by decide, h⟩
    · rintro ⟨root, hroot, hprefix⟩
      simp only [userRoots, List.mem_cons, List.not_mem_nil, or_false] at hroot
      rcases hroot with rfl | rfl | rfl
      · exact absurd hprefix (hnone ("HKEY_CURRENT_USER\\", "HKCU:\\") (by decide))
      · exact absurd hprefix (hnone ("HKCU\\", "HKCU:\\") (by decide))
      · exact hprefix
  | some hive =>
    have hmem : hive ∈ hives := List.mem_of_find?_eq_some hhive
    have hprefix : hive.1.toList <+: Text.upperChars path.toList := by
      have hfound := List.find?_some (show hives.find? _ = some hive from hhive)
      exact Text.startsWith_iff.mp hfound
    rw [isOnUserDrive_append_iff hmem]
    constructor
    · intro hdrive
      have hspelling : ∀ hive ∈ hives, hive.2 = userDrive → hive.1 ∈ userRoots := by decide
      exact ⟨hive.1, hspelling hive hmem hdrive, hprefix⟩
    · rintro ⟨root, hroot, hprefix'⟩
      exact eq_userDrive_of_prefix hmem hroot hprefix hprefix'

theorem root_ne_nil {root : String} (hroot : root ∈ userRoots) : root.toList ≠ [] := by
  revert root
  decide

theorem not_isBlank_of_mem_root {root : String} (hroot : root ∈ userRoots) :
    ∀ c ∈ root.toList, Text.isBlank c = false := by
  have hall : ∀ root ∈ userRoots, root.toList.all (fun c => !Text.isBlank c) = true := by decide
  intro c hc
  simpa using List.all_eq_true.mp (hall root hroot) c hc

/-- A path that begins as a text without blanks does begins with none. -/
theorem not_isBlank_of_prefix {start cs : List Char} (hne : start ≠ [])
    (hstart : ∀ c ∈ start, Text.isBlank c = false) (h : start <+: Text.upperChars cs) :
    ∀ c ∈ cs.head?, Text.isBlank c = false := by
  intro c hc
  obtain ⟨ds, rfl⟩ := List.head?_eq_some_iff.mp hc
  by_contra hnot
  have hblank : Text.isBlank c = true := by simpa using hnot
  have hupper : Text.upperChars (c :: ds) = c :: Text.upperChars ds := by
    rw [Text.upperChars, List.flatMap_cons, Text.upperChar_of_isBlank hblank]
    rfl
  obtain ⟨r, rs, rfl⟩ := List.exists_cons_of_ne_nil hne
  rw [hupper] at h
  obtain ⟨rfl, -⟩ := List.cons_prefix_cons.mp h
  exact hnot (hstart r List.mem_cons_self)

/-- Behind no blank, the upper case of a path begins as it does without the blanks around it: only
blanks at its end are cut off, and those are their own upper case. -/
theorem prefix_upperChars_trim_iff {start : List Char} {path : String}
    (hstart : ∀ c ∈ start, Text.isBlank c = false)
    (hhead : ∀ c ∈ path.toList.head?, Text.isBlank c = false) :
    start <+: Text.upperChars path.toList ↔ start <+: Text.upperChars (Text.trim path).toList := by
  have htail : ∀ c ∈ path.toList.rtakeWhile Text.isBlank, Text.isBlank c = true :=
    fun _ => List.mem_rtakeWhile_imp
  have hdrop : path.toList.dropWhile Text.isBlank = path.toList := by
    refine List.dropWhile_eq_self_iff.mpr fun hlength => ?_
    rw [hhead _ (by simp [List.head?_eq_getElem?, hlength])]
    exact Bool.false_ne_true
  have htrim : (Text.trim path).toList = path.toList.rdropWhile Text.isBlank := by
    rw [Text.trim, hdrop, String.toList_ofList]
    rfl
  have hupper : Text.upperChars path.toList =
      Text.upperChars (Text.trim path).toList ++ path.toList.rtakeWhile Text.isBlank := by
    conv_lhs => rw [← List.rdropWhile_append_rtakeWhile (l := path.toList) (p := Text.isBlank),
      Text.upperChars_append, Text.upperChars_of_isBlank htail, ← htrim]
  rw [hupper]
  constructor
  · intro h
    refine Text.prefix_of_prefix_append h fun c hc hmem => ?_
    exact Bool.false_ne_true ((hstart c hc).symm.trans (htail c hmem))
  · intro h
    exact h.trans (List.prefix_append _ _)

/-- **A path is rooted exactly if it begins with no blank and is rooted without the blanks around
it**: those at its end do not matter. -/
theorem isRooted_iff_trim (path : String) :
    IsRooted path ↔
      (∀ c ∈ path.toList.head?, Text.isBlank c = false) ∧ IsRooted (Text.trim path) := by
  constructor
  · rintro ⟨root, hroot, hbegin⟩
    have hplain := not_isBlank_of_mem_root hroot
    have hhead := not_isBlank_of_prefix (root_ne_nil hroot) hplain hbegin
    exact ⟨hhead, root, hroot, (prefix_upperChars_trim_iff hplain hhead).mp hbegin⟩
  · rintro ⟨hhead, root, hroot, hbegin⟩
    have hplain := not_isBlank_of_mem_root hroot
    exact ⟨root, hroot, (prefix_upperChars_trim_iff hplain hhead).mpr hbegin⟩

theorem ofKeyPath_eq_user_iff {path : String} : Phase.ofKeyPath path = .user ↔
    ∃ hive ∈ Phase.userHives, hive.toList <+: Text.upperChars (Text.trim path).toList := by
  have hany : (Phase.userHives.any fun hive =>
      Text.startsWith hive.toList (Text.upperChars (Text.trim path).toList)) = true ↔
      ∃ hive ∈ Phase.userHives, hive.toList <+: Text.upperChars (Text.trim path).toList := by
    simp only [List.any_eq_true, Text.startsWith_iff]
  rw [← hany]
  unfold Phase.ofKeyPath
  dsimp only
  split <;> simp_all

theorem ofKeyPath_of_isRooted {path : String} (h : IsRooted (Text.trim path)) :
    Phase.ofKeyPath path = .user := by
  have hhives : ∀ root ∈ userRoots, ∃ hive ∈ Phase.userHives, hive.toList <+: root.toList := by
    decide +kernel
  obtain ⟨root, hroot, hbegin⟩ := h
  obtain ⟨hive, hhive, hstart⟩ := hhives root hroot
  exact ofKeyPath_eq_user_iff.mpr ⟨hive, hhive, hstart.trans hbegin⟩

end KeyPath

/-! ## The commands of a target -/

/-- The key that a command is for. -/
def Statement.path : Statement → String
  | setValue path _ _ _ _ => path
  | removeValue path _ _ => path
  | newKey path _ => path
  | removeKey path _ => path
  | setBit path _ _ _ _ _ => path
  | setByte path _ _ _ _ => path

namespace Target

variable {t : Target} {v : Value} {description : String} {commands : List Statement}

/-- There is a command, and all commands are for the key of the target, in drive form. -/
theorem path_of_statements (h : t.statements v description = .ok commands) :
    commands ≠ [] ∧ ∀ command ∈ commands, command.path = KeyPath.toDrive t.keyPath := by
  have hone : ∀ command : Statement, command.path = KeyPath.toDrive t.keyPath →
      [command] ≠ [] ∧ ∀ c ∈ [command], c.path = KeyPath.toDrive t.keyPath :=
    fun command hpath => ⟨List.cons_ne_nil _ _, List.forall_mem_singleton.mpr hpath⟩
  unfold statements statementsAt at h
  cases hmode : t.mode with
  | bit index mask | byte index =>
    rw [hmode] at h
    obtain ⟨-, -, h⟩ := Except.exists_of_bind_ok h
    cases h
    exact hone _ rfl
  | subkey =>
    rw [hmode] at h
    obtain rfl := Except.ok.inj h
    split
    · exact hone _ rfl
    split
    · exact ⟨List.cons_ne_nil _ _, by simp [Statement.path]⟩
    · exact hone _ rfl
  | plain =>
    rw [hmode] at h
    dsimp only at h
    by_cases hnull : v.isNull = true
    · rw [if_pos hnull] at h
      cases h
      exact hone _ rfl
    by_cases hempty : v.isEmptyText = true
    · rw [if_neg hnull, if_pos hempty] at h
      cases h
      exact hone _ rfl
    · rw [if_neg hnull, if_neg hempty] at h
      obtain ⟨literal, -, h⟩ := Except.exists_of_bind_ok h
      cases h
      exact hone _ rfl

/-- **The commands of a target go to the drive of the user** exactly if its phase is that of the
user, no blank stands in front of its path, and the path without the blanks around it begins with a
closed spelling of the hive or with the drive. -/
theorem onUserDrive_iff (h : t.statements v description = .ok commands) :
    (∀ command ∈ commands, KeyPath.IsOnUserDrive command.path) ↔
      t.phase = .user ∧ (∀ c ∈ t.keyPath.toList.head?, Text.isBlank c = false) ∧
        KeyPath.IsRooted (Text.trim t.keyPath) := by
  obtain ⟨hne, hpath⟩ := path_of_statements h
  have hall : (∀ command ∈ commands, KeyPath.IsOnUserDrive command.path) ↔
      KeyPath.IsOnUserDrive (KeyPath.toDrive t.keyPath) := by
    constructor
    · intro hdrive
      obtain ⟨command, hmem⟩ := List.exists_mem_of_ne_nil _ hne
      rw [← hpath command hmem]
      exact hdrive command hmem
    · intro hdrive command hmem
      rw [hpath command hmem]
      exact hdrive
  rw [hall, KeyPath.isOnUserDrive_toDrive_iff, KeyPath.isRooted_iff_trim]
  constructor
  · intro hrooted
    exact ⟨KeyPath.ofKeyPath_of_isRooted hrooted.2, hrooted⟩
  · exact And.right

end Target

/-! ## A blank in front, and a hive that nothing closes -/

/-- A document of a target with a given key path. -/
def keyDocument (path : String) : Value :=
  .map [(.str "key_path", .str path), (.str "value_name", .str "Beep")]

/-- The target of the document. -/
def keyTarget (path : String) : Target := ⟨path, some "Beep", .dword, .null, .null, .plain⟩

/-- The commands that set the value of the document to one. -/
def keyCommands (path : String) : List Statement :=
  [.setValue path "Beep" "DWord" "1" "Beep"]

/-- A hive in lower case is written through its drive. -/
theorem onUserDrive_iff_lower :
    Target.ofValue (keyDocument "hkey_current_user\\Sound") "registry" =
        .ok (keyTarget "hkey_current_user\\Sound") ∧
      (keyTarget "hkey_current_user\\Sound").statements (.int 1) "Beep" =
        .ok (keyCommands "HKCU:\\Sound") ∧
      ∀ command ∈ keyCommands "HKCU:\\Sound", KeyPath.IsOnUserDrive command.path := by
  have hcommands : (keyTarget "hkey_current_user\\Sound").statements (.int 1) "Beep" =
      .ok (keyCommands "HKCU:\\Sound") := by
    decide +kernel
  have hhead : ∀ c ∈ "hkey_current_user\\Sound".toList.head?, Text.isBlank c = false := by
    simp [Text.isBlank]
  exact ⟨rfl, hcommands, (Target.onUserDrive_iff hcommands).mpr
    ⟨by decide +kernel, hhead, "HKEY_CURRENT_USER\\", by decide, by decide +kernel⟩⟩

/-- A target of the user's whose command does not go to the user's drive. -/
def Strays (path : String) : Prop :=
  Target.ofValue (keyDocument path) "registry" = .ok (keyTarget path) ∧
    (keyTarget path).phase = .user ∧
    (keyTarget path).statements (.int 1) "Beep" = .ok (keyCommands path) ∧
    ¬ ∀ command ∈ keyCommands path, KeyPath.IsOnUserDrive command.path

/-- **A blank in front of the hive, or nothing behind it, keeps a target of the user from the user's
drive.** -/
theorem not_onUserDrive : Strays " HKCU\\Sound" ∧ Strays "HKEY_CURRENT_USER" :=
  ⟨⟨rfl, by decide +kernel, by decide +kernel, by decide +kernel⟩,
    ⟨rfl, by decide +kernel, by decide +kernel, by decide +kernel⟩⟩

end Provision
