/-!
# YAML tokens

The tokens that the scanner makes of a text. Indentation and the keys of mappings show up as tokens
of their own, so that the grammar needs no columns.
-/

namespace EventProbe.Yaml

inductive Style where
  | plain
  | singleQuoted
  | doubleQuoted
  | literal
  | folded
  deriving DecidableEq, Repr

inductive Token where
  | versionDirective (major minor : Nat)
  | tagDirective (handle uri : List UInt8)
  | documentStart
  | documentEnd
  | blockSequenceStart
  | blockMappingStart
  | blockEnd
  | flowSequenceStart
  | flowSequenceEnd
  | flowMappingStart
  | flowMappingEnd
  | blockEntry
  | flowEntry
  | key
  | value
  | alias (name : List Char)
  | anchor (name : List Char)
  | tag (handle suffix : List UInt8)
  | scalar (style : Style) (text : String)
  deriving DecidableEq, Repr

end EventProbe.Yaml
