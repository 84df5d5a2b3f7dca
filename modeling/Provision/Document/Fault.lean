import Provision.Value.Basic

/-!
# Why a document cannot be read

* `DocumentFault`: the file is no text, the text is malformed, or a scalar in it stands for no
  value.
-/

namespace Provision.Document

/-- Why a document cannot be read. -/
inductive DocumentFault where
  /-- The bytes are no text. -/
  | undecodable
  /-- The text is malformed, or means nothing. -/
  | malformed
  /-- A scalar has the form of a kind of value and stands for none. -/
  | misfit (m : Misfit)
  /-- The document is nested too deep, or a scalar is defined by itself. -/
  | endless
deriving DecidableEq, Repr

/-- What reading a part of a document gives. -/
abbrev Scan (α : Type) := Except DocumentFault α

/-- A value, or the finding that the document is malformed. -/
def orMalformed {α : Type} : Option α → Scan α
  | some a => .ok a
  | none => .error .malformed

end Provision.Document
