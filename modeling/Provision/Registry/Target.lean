import Provision.Phase
import Provision.Problem

/-!
# Registry targets

* `Mode`: what a target does to the registry: write a value, patch a bit or a byte of one, or make a
  key.
* `Target`: a place in the registry with the values for on and off.
* `Target.make`: builds a target, or says what does not fit together.
* `Target.WellFormed`: the targets that `Target.make` builds.
-/

namespace Provision

/-- What a target does. -/
inductive Mode where
  /-- Writes or removes one named value. -/
  | plain
  /-- Sets or clears the bits of a mask in one byte of a binary value. -/
  | bit (index mask : Nat)
  /-- Overwrites one byte of a binary value. -/
  | byte (index : Nat)
  /-- Makes or removes the key itself. -/
  | subkey
deriving DecidableEq, Repr

namespace Mode

/-- A bit patch, whose mask has to select a bit of a byte. -/
def bitPatch (index mask : Int) : Except Problem Mode :=
  if index < 0 then .error (.indexNegative index)
  else if 0 < mask ∧ mask ≤ 255 then .ok (bit index.toNat mask.toNat)
  else .error (.maskOutOfRange mask)

/-- A byte patch. -/
def bytePatch (index : Int) : Except Problem Mode :=
  if index < 0 then .error (.indexNegative index) else .ok (byte index.toNat)

/-- The name of the patch that a mode is, if it is one. -/
def patch? : Mode → Option PatchName
  | bit _ _ => some .bit
  | byte _ => some .byte
  | _ => none

end Mode

/-- A place in the registry, with the values it gets when its setting is on and off. -/
structure Target where
  keyPath : String
  valueName : Option String
  kind : ValueKind
  enabled : Value
  disabled : Value
  mode : Mode

namespace Target

/-- The key that stands for a target without a value name. -/
def keyExists : String := "KeyExists"

/-- Whether a text is given and not empty. -/
def isNamed : Option String → Bool
  | some s => s != ""
  | none => false

/-- What does not fit together in a target, if anything. -/
def problem? (t : Target) : Option Problem :=
  let name := t.valueName.getD "None"
  if t.keyPath = "" then some .keyPathMissing
  else if t.mode = .subkey then
    if isNamed t.valueName then some (.subkeyNamesValue t.keyPath name) else none
  else if !isNamed t.valueName then some (.valueNameMissing t.keyPath)
  else
    match t.mode.patch? with
    | some patch =>
      if t.kind = .binary then none else some (.patchNeedsBinary patch t.keyPath name t.kind)
    | none => none

/-- A target whose parts fit together: a subkey has no value name and all others have one, patches
are of binary values, and masks select bits of a byte. -/
structure WellFormed (t : Target) : Prop where
  keyPath_ne : t.keyPath ≠ ""
  name_iff : isNamed t.valueName = true ↔ t.mode ≠ .subkey
  patch_binary : t.mode.patch?.isSome = true → t.kind = .binary
  mask_range : ∀ index mask, t.mode = .bit index mask → 0 < mask ∧ mask ≤ 255

/-- The target itself, or what does not fit together in it. -/
def checked (t : Target) : Except Problem Target :=
  match t.problem? with
  | some p => .error p
  | none => .ok t

/-- Builds a target from the name of its kind. -/
def make (keyPath : String) (valueName : Option String) (kindName : String)
    (enabled disabled : Value) (mode : Mode) : Except Problem Target :=
  match ValueKind.ofName? kindName with
  | some kind => checked ⟨keyPath, valueName, kind, enabled, disabled, mode⟩
  | none =>
    .error (if keyPath = "" then .keyPathMissing else .targetKindUnknown kindName keyPath)

/-- The phase that writes a target. -/
def phase (t : Target) : Phase := Phase.ofKeyPath t.keyPath

/-- The key of a target in value tables. -/
def lookupKey (t : Target) : String :=
  match t.valueName with
  | some s => if s = "" then keyExists else s
  | none => keyExists

/-- The value for on or off. -/
def valueFor (t : Target) (on : Bool) : Value := if on then t.enabled else t.disabled

end Target

end Provision
