import Assay.Yaml.Cursor

/-!
# Tokens

The tokens of a YAML text. Indentation shows in them as the tokens that open and close block
collections, and the key of a block mapping is announced by a token of its own although the text
marks it only by the colon after it.

## Main definitions

* `Token`: The tokens.
-/

namespace Assay.Yaml

/-- A token of a YAML text. -/
inductive Token
  | versionDirective (major minor : Nat)
  | tagDirective (handle tagStart : List Char)
  | otherDirective
  | documentStart
  | documentEnd
  | blockSequenceStart
  | blockMappingStart
  | blockEnd
  | flowSequenceStart
  | flowSequenceEnd
  | flowMappingStart
  | flowMappingEnd
  | blockEntry
  | flowEntry
  | key
  | value
  | reference (name : List Char)
  | anchor (name : List Char)
  | tag (handle : Option (List Char)) (suffix : List Char)
  | scalar (text : List Char) (plain : Bool)
  deriving DecidableEq, Repr

end Assay.Yaml
