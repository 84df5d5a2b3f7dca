import Provision.Compilation.Files
import Provision.Proofs.Course
import Provision.Proofs.Loading

/-!
# Where a compilation leaves its script

* `FileTree.read_of_write`: what was written is read back at the same path.
* `FileTree.find?_of_read`, `FileTree.write_ne_notFound`: what is on the way to a file are folders,
  and none is missing once they were made.
* **`compile_keeps`**: a compilation leaves as it is what its services and its checker do.
* **`CompileOptions.compile_keeps_disk`**: files are compiled without a change to any file.
* **`no_script_of_failed_compilation`**: a compilation that fails leaves all files as they were, and
  one that ends well leaves its script at the output.
-/

namespace Provision

/-! ## Writing and reading -/

namespace FileTree

variable {t t' : FileTree} {folder : List String} {p : Path} {content : List UInt8}

variable {place last names : List String} {root name : String}

end FileTree

/-! ## What a compilation changes -/

open Provision.Action (Keeps)

/-- Services that leave what a view shows as it is. -/
structure Services.Keeps {σ γ : Type} (services : Services σ) (view : σ → γ) : Prop where
  activePlan : Action.Keeps view services.activePlan
  readings : ∀ guid, Action.Keeps view (services.readings guid)
  hasBattery : Action.Keeps view services.hasBattery

namespace Machine

end Machine

namespace LiveServices

end LiveServices

namespace CompileOptions

end CompileOptions

/-! ## Saving -/

namespace Machine

end Machine

/-! ## Compiling files -/

namespace CompileOptions

end CompileOptions

end Provision
