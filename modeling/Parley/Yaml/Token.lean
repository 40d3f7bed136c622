import Parley.Yaml.Cursor

/-!
# Tokens

The words of a YAML document. Indentation has turned into tokens of its own:
a block collection is opened by its start token and closed by `blockEnd`, and
each key of a mapping is announced by `key` and its value by `value`.
-/

namespace Parley.Yaml

/-- A directive at the head of a document. -/
inductive Directive where
  | version (major minor : Nat)
  /-- What a tag's handle stands for. -/
  | tag (handle stem : String)
  | other
  deriving DecidableEq, Repr

inductive Token where
  | directive (d : Directive)
  | documentStart
  | documentEnd
  | streamEnd
  | blockSequenceStart
  | blockMappingStart
  | blockEnd
  | flowSequenceStart
  | flowSequenceEnd
  | flowMappingStart
  | flowMappingEnd
  | blockEntry
  | flowEntry
  | key
  | value
  | alias (name : String)
  | anchor (name : String)
  /-- A tag, in full or behind a handle. -/
  | tag (handle : Option String) (suffix : String)
  /-- A scalar, `plain` if it is written without quotes or indicator. -/
  | scalar (content : String) (plain : Bool)
  deriving DecidableEq, Repr

end Parley.Yaml
