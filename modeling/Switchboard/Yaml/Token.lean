/-!
# The tokens of YAML

Some tokens are written in the text; others (the starts and ends of block
collections, and the keys of mappings whose keys come without a question mark)
follow from its layout.
-/

namespace Switchboard.Yaml

/-- How a scalar is written. -/
inductive Style where
  | plain
  | singleQuoted
  | doubleQuoted
  | literal
  | folded
deriving DecidableEq

/-- A tag as written: a suffix, behind the handle that abbreviates its beginning.
An empty handle stands for a tag that is written in full. -/
structure TagName where
  handle : List Char
  suffix : List Char
deriving DecidableEq

/-- A token. -/
inductive Token where
  | version (major minor : Nat)
  | tagHandle (handle meaning : List Char)
  | documentStart
  | documentEnd
  | blockSequenceStart
  | blockMappingStart
  | blockEnd
  | flowSequenceStart
  | flowSequenceEnd
  | flowMappingStart
  | flowMappingEnd
  | blockEntry
  | flowEntry
  | key
  | value
  | alias (name : List Char)
  | anchor (name : List Char)
  | tag (name : TagName)
  | scalar (text : List Char) (style : Style)
deriving DecidableEq

end Switchboard.Yaml
