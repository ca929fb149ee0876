import RowPress.Yaml.Fault
/-! The tokens of a YAML document. -/
namespace RowPress.Yaml

inductive Style where
  | plain | singleQuoted | doubleQuoted | literal | folded
deriving DecidableEq

inductive TokenKind where
  | streamStart | streamEnd
  | version | tagDirective (handle source : String)
  | documentStart | documentEnd
  | blockSequenceStart | blockMappingStart | blockEnd
  | flowSequenceStart | flowSequenceEnd | flowMappingStart | flowMappingEnd
  | blockEntry | flowEntry | key | value
  | reference (name : String) | anchor (name : String) | tag (handle suffix : String)
  | scalar (style : Style) (text : String)

structure Token where
  mark : Mark
  kind : TokenKind

end RowPress.Yaml
