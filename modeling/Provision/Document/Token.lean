import Provision.Document.Fault

/-!
# Tokens of a document

* `Token`: the words of a document, with marks for the nesting that its indentation shows.
* `Tokens`: the words that can be read, and the fault behind them.
-/

namespace Provision.Document

/-- A directive before a document. -/
inductive Directive where
  | version (major : Int)
  | handle (name expansion : String)
  | unknown
deriving DecidableEq, Repr

/-- A word of a document. -/
inductive Token where
  | directive (d : Directive)
  | documentStart
  | documentEnd
  | blockSequence
  | blockMapping
  | blockEnd
  | flowSequence
  | flowSequenceEnd
  | flowMapping
  | flowMappingEnd
  | blockEntry
  | flowEntry
  | key
  | value
  | reference (name : String)
  | anchor (name : String)
  /-- A tag: a handle that directives expand, and a suffix. -/
  | tag (handle : Option String) (suffix : String)
  /-- A scalar; a plain one is written without quotes. -/
  | scalar (text : String) (plain : Bool)
deriving DecidableEq, Repr

/-- The words of a document as far as they can be read, and the fault that shows when another one is
asked for; there is none when the document ends behind them. -/
structure Tokens where
  words : List Token
  beyond : Option DocumentFault
deriving DecidableEq, Repr

end Provision.Document
