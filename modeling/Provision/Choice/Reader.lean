import Provision.Choice.Basic
import Provision.Failure

/-!
# Reading a configuration

* `Choice.ofValue`: the choice for one setting.
* `RemovalItem.ofValue`: something to remove.
* `Configuration.ofEntries`, `Configuration.ofValue`: a whole configuration.
-/

namespace Provision

/-! ## Choices -/

/-- How a setting is chosen: as the choice says, or else by the first of plan, index and values that
it gives, or else as a toggle. -/
def Choice.kindOf (es : Entries) : Except Problem InputKind :=
  let named := es.field "inputType"
  if !named.isNull then
    match InputKind.ofValue? named with
    | some kind => .ok kind
    | none => .error (.itemKindUnknown (es.field "id") named)
  else if (es.field "powerPlanGuid").isTruthy then .ok .powerPlan
  else if !(es.field "selectedIndex").isNull then .ok .selection
  else if (es.field "customStateValues").isTruthy && (es.field "isSelected").isNull then
    .ok .selection
  else .ok .toggle

/-- The choice for one setting. -/
def Choice.ofValue (v : Value) (place : String) : Except Problem Choice := do
  let es ← Shape.entries v place
  let id := es.field "id"
  if !id.isTruthy then
    throw (.idRequired place)
  let name ← Shape.text id
  let kind ← Choice.kindOf es
  let index ← Shape.integer? (es.field "selectedIndex") (place ++ ".selectedIndex")
  let values := es.field "customStateValues"
  let custom ←
    if values.isTruthy then some <$> Shape.entries values (place ++ ".customStateValues")
    else pure none
  return {
    id := name
    kind := kind
    isSelected := es.field "isSelected"
    index := index
    custom := custom
    planGuid := es.field "powerPlanGuid"
    planName := es.field "powerPlanName" }

/-- The choices for one feature. -/
def ChoiceSection.ofEntry (group : String) (entry : Value × Value) :
    Except Problem ChoiceSection := do
  let feature ← Shape.text entry.1
  let place := group ++ ".features." ++ feature
  let es ← Shape.entries entry.2 place
  let items ← Shape.each Choice.ofValue (es.field "items") (place ++ ".items")
  let included := (es.getText? "isIncluded").getD (.bool true)
  return ⟨feature, items, included.isTruthy⟩

/-- A named collection of features; `key` is its name in places. -/
def ChoiceGroup.ofValue (name key : String) (v : Value) : Except Problem ChoiceGroup := do
  let es ← Shape.entries v key
  let features ← Shape.entries (es.field "features") (key ++ ".features")
  return ⟨name, ← features.mapM (ChoiceSection.ofEntry key)⟩

/-! ## Removals -/

/-- Something to remove: a capability, an optional feature or a package, by the first name given. -/
def RemovalItem.ofValue (v : Value) (place : String) : Except Problem RemovalItem := do
  let es ← Shape.entries v place
  let id := es.field "id"
  if !id.isTruthy then
    throw (.idRequired place)
  let capability := es.field "capabilityName"
  let feature := es.field "optionalFeatureName"
  let (kind, name) :=
    if capability.isTruthy then (RemovalKind.capability, capability)
    else if feature.isTruthy then (.optionalFeature, feature)
    else (.package, if (es.field "appxPackageName").isTruthy then es.field "appxPackageName"
      else .str "")
  let parts ← Shape.items (es.field "subPackages") (place ++ ".subPackages")
  return ⟨← Shape.text id, kind, ← Shape.text name, ← parts.mapM Shape.text⟩

/-! ## Configurations -/

/-- A configuration from the entries of its document. -/
def Configuration.ofEntries (es : Entries) : Except Problem Configuration := do
  let apps ← Shape.entries (es.field "windows_apps") "windows_apps"
  let items ← Shape.items (apps.field "items") "windows_apps.items"
  let optimize ← ChoiceGroup.ofValue "Optimize" "optimize" (es.field "optimize")
  let customize ← ChoiceGroup.ofValue "Customize" "customize" (es.field "customize")
  let removals ← Shape.eachFrom RemovalItem.ofValue "windows_apps.items" 0 items
  return ⟨optimize, customize, removals⟩

/-- A configuration from its document, which has to be a map. -/
def Configuration.ofValue : Value → Except Failure Configuration
  | .map es => (Configuration.ofEntries es).mapError Failure.ofProblem
  | _ => .error (.misfit .lacksPart)

end Provision
