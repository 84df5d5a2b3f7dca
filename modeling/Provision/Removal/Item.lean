/-!
# Things to remove

* `RemovalItem`: an app, capability or optional feature that the user wants removed.
-/

namespace Provision

/-- How something is removed. -/
inductive RemovalKind where
  | package
  | capability
  | optionalFeature
deriving DecidableEq, Repr

/-- The word for a way to remove. -/
def RemovalKind.name : RemovalKind → String
  | package => "package"
  | capability => "capability"
  | optionalFeature => "optional-feature"

/-- Something to remove; `subPackages` go together with a package. -/
structure RemovalItem where
  id : String
  kind : RemovalKind
  name : String
  subPackages : List String
deriving DecidableEq, Repr

end Provision
