import Bindery.Yaml.Tag

/-!
# Bindery — Yaml — Token

The tokens of a YAML text.  Besides what stands in the text there are tokens for what the layout
says: where a block collection starts and ends, and which scalar or collection is a key.
-/

namespace Bindery.Yaml

/-- A token. -/
inductive Token where
  | version
  | handle (name : String) (octets : List UInt8)
  | documentStart
  | documentEnd
  | blockSequence
  | blockMapping
  | blockEnd
  | flowSequence
  | flowSequenceEnd
  | flowMapping
  | flowMappingEnd
  | blockEntry
  | flowEntry
  | key
  | value
  | alias (name : String)
  | anchor (name : String)
  | tag (name : TagName)
  | plain (text : String)
  | quoted (text : String)

end Bindery.Yaml
