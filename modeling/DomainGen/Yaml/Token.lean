import DomainGen.Yaml.Token.Scalar

/-!
# The tokens of a YAML text

What a YAML text consists of before its structure is known. Block collections, which the text shows
by indentation alone, have opening and closing tokens like the bracketed ones.
-/

namespace DomainGen.Yaml

/-- An instruction before a document. -/
inductive Directive where
  /-- The version of the format the document needs. -/
  | version (major : Nat)
  /-- A handle and the beginning of the tags it stands for. -/
  | handle (name beginning : String)
  /-- Any other; it has no effect. -/
  | other
  deriving DecidableEq, Repr, Inhabited

/-- A token. -/
inductive Token where
  | directive (d : Directive)
  | documentStart
  | documentEnd
  | blockSequenceStart
  | blockMappingStart
  | blockEnd
  | flowSequenceStart
  | flowSequenceEnd
  | flowMappingStart
  | flowMappingEnd
  /-- The hyphen before an item. -/
  | blockEntry
  /-- The comma between items. -/
  | flowEntry
  /-- What follows is a key. -/
  | key
  /-- What follows is the value of a key. -/
  | value
  | alias (name : String)
  | anchor (name : String)
  /-- A tag: its handle, if it has one, and the part after it. -/
  | tag (handle : Option String) (suffix : String)
  /-- A scalar; `plain` if it was written without quotes and not as a block. -/
  | scalar (text : String) (plain : Bool)
  /-- The text cannot be read further. -/
  | broken (e : ReadError)
  deriving DecidableEq, Repr, Inhabited

end DomainGen.Yaml
