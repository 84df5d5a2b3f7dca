import Provision.Catalog.Basic
import Provision.Failure

/-!
# Reading a catalogue

* `Mode.ofEntries`, `Target.ofValue`: registry targets from their document form.
* `Setting.ofValue`: a setting.
* `Catalog.ofEntries`, `Catalog.ofValue`: a whole catalogue.
-/

namespace Provision

/-! ## Registry targets -/

/-- The names of the modes that a target asks for besides the plain one. -/
def Mode.requested (es : Entries) : List String :=
  (if (es.field "bit_mask").isNull then [] else ["bit_mask"]) ++
    (if (es.field "modify_byte_only").isTruthy then ["modify_byte_only"] else []) ++
    (if (es.field "is_guid_subkey").isTruthy then ["is_guid_subkey"] else [])

/-- The mode that a target asks for; at most one may be asked for, and only patches have the index
of a byte. -/
def Mode.ofEntries (es : Entries) (place : String) : Except Problem Mode := do
  let mask := es.field "bit_mask"
  let index := es.field "binary_byte_index"
  let asked := Mode.requested es
  if asked.length > 1 then
    throw (.modesCombined place asked)
  if (es.field "is_guid_subkey").isTruthy then
    if index.isNull then return .subkey else throw (.indexOnSubkey place)
  if !mask.isNull || (es.field "modify_byte_only").isTruthy then
    if index.isNull then
      throw (.indexRequired place)
    let n ← Shape.integer index (place ++ ".binary_byte_index")
    if mask.isNull then Mode.bytePatch n
    else
      let m ← Shape.integer mask (place ++ ".bit_mask")
      Mode.bitPatch n m
  else if index.isNull then return .plain
  else throw (.indexUnused place)

/-- The key path of a target, which has to be a text. -/
def Target.keyPathOf (es : Entries) (place : String) : Except Problem String :=
  match es.field "key_path" with
  | .str s => if s = "" then .error (.keyPathRequired place) else .ok s
  | _ => .error (.keyPathRequired place)

/-- The kind of a target's value, a double word unless the target says otherwise. -/
def Target.kindOf (es : Entries) (place : String) : Except Problem ValueKind :=
  let found := (es.getText? "value_kind").getD (.str ValueKind.dword.name)
  match found with
  | .str s =>
    match ValueKind.ofName? s with
    | some kind => .ok kind
    | none => .error (.kindUnknown place found)
  | _ => .error (.kindUnknown place found)

/-- A registry target from its document form. -/
def Target.ofValue (v : Value) (place : String) : Except Problem Target := do
  let es ← Shape.entries v place
  let keyPath ← Target.keyPathOf es place
  let kind ← Target.kindOf es place
  let mode ← Mode.ofEntries es place
  let name := es.field "value_name"
  let valueName ← if name.isNull then pure none else some <$> Shape.text name
  Target.checked {
    keyPath := keyPath
    valueName := valueName
    kind := kind
    enabled := es.field "enabled_value"
    disabled := es.field "disabled_value"
    mode := mode }

/-! ## Settings -/

/-- A scheduled task, given by its path or as a map. -/
def Setting.taskOfValue (v : Value) (place : String) : Except Problem String :=
  match v with
  | .str s => .ok s
  | _ => do
    let es ← Shape.entries v place
    let path := es.field "task_path"
    if path.isTruthy then Shape.text path else throw (.taskPathRequired place)

/-- A power setting. -/
def PowerTarget.ofValue (v : Value) (place : String) : Except Problem PowerTarget := do
  let es ← Shape.entries v place
  let subgroup := es.field "subgroup_guid"
  let setting := es.field "setting_guid"
  if !(subgroup.isTruthy && setting.isTruthy) then
    throw (.guidsRequired place)
  let sides ←
    match (es.getText? "mode_support").getD (.str PowerSides.separate.name) with
    | .str "separate" => pure PowerSides.separate
    | .str "combined" => pure PowerSides.combined
    | _ => throw (.modeSupportUnknown place)
  return ⟨← Shape.text subgroup, ← Shape.text setting, sides⟩

/-- A registry file. -/
def Payload.ofValue (place : String) (v : Value) : Except Problem Payload := do
  let es ← Shape.entries v place
  return ⟨es.field "enabled_content", es.field "disabled_content"⟩

/-- Writes a row to a value table: a row that is there already is replaced where it stands. -/
def Setting.putRow (table : List (Int × Entries)) (index : Int) (row : Entries) :
    List (Int × Entries) := Table.put (· == index) index row table

/-- The rows of a value table, written in turn. -/
def Setting.tableOfEntries (place : String) (table : List (Int × Entries)) :
    List (Value × Value) → Except Problem (List (Int × Entries))
  | [] => .ok table
  | (key, row) :: rest => do
    let index ← Shape.integer key (place ++ " index")
    let es ← Shape.entries row (place ++ "[" ++ (← Shape.text key) ++ "]")
    Setting.tableOfEntries place (Setting.putRow table index es) rest

/-- A setting from its document form. -/
def Setting.ofValue (v : Value) (place : String) : Except Problem Setting := do
  let es ← Shape.entries v place
  let id := es.field "id"
  if !id.isTruthy then
    throw (.idRequired place)
  let name ← Shape.text id
  let place := place ++ " " ++ name
  let input := (es.getText? "input_type").getD (.str InputKind.toggle.name)
  let some inputKind := InputKind.ofValue? input | throw (.inputKindUnknown place input)
  let targets ← Shape.each Target.ofValue (es.field "registry") (place ++ ".registry")
  let tasks ←
    Shape.each Setting.taskOfValue (es.field "scheduled_tasks") (place ++ ".scheduled_tasks")
  let payloads ← (← Shape.items (es.field "reg_imports") (place ++ ".reg_imports")).mapM
    (Payload.ofValue (place ++ ".reg_imports"))
  let power ← Shape.each PowerTarget.ofValue (es.field "powercfg") (place ++ ".powercfg")
  let description ← Shape.textOr (es.field "description") id
  let rows ← Shape.entries (es.field "value_mappings") (place ++ ".value_mappings")
  let table ← Setting.tableOfEntries (place ++ ".value_mappings") [] rows
  return {
    id := name
    description := description
    inputKind := inputKind
    targets := targets
    tasks := tasks
    payloads := payloads
    power := power
    table := table
    needsBattery := (es.field "requires_battery").isTruthy
    needsBrightness := (es.field "requires_brightness_support").isTruthy }

/-! ## Catalogues -/

/-- A feature and its settings. -/
def Feature.ofEntry (entry : Value × Value) : Except Problem Feature := do
  let place := "features." ++ (← Shape.text entry.1)
  let es ← Shape.entries entry.2 place
  let name ← Shape.textOr (es.field "name") entry.1
  let settings ← Shape.each Setting.ofValue (es.field "settings") (place ++ ".settings")
  return ⟨entry.1, name, settings⟩

/-- A catalogue from the entries of its document. -/
def Catalog.ofEntries (es : Entries) : Except Problem Catalog := do
  let features ← Shape.entries (es.field "features") "features"
  return ⟨← features.mapM Feature.ofEntry⟩

/-- A catalogue from its document, which has to be a map. -/
def Catalog.ofValue : Value → Except Failure Catalog
  | .map es => (Catalog.ofEntries es).mapError Failure.ofProblem
  | _ => .error (.misfit .lacksPart)

end Provision
