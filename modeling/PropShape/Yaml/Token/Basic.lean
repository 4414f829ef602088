import PropShape.Yaml.Tag

/-!
# `PropShape.Yaml.Token.Basic`: the tokens of a YAML text

Tokens make the structure of a text explicit: where collections that are
written by indentation start and end, and what is a key and what a value. The
end of the token list is the end of the text.
-/

set_option autoImplicit false

namespace PropShape.Yaml

/-- How a scalar is written. -/
inductive Style
  | plain | singleQuoted | doubleQuoted | literal | folded
  deriving DecidableEq, Inhabited

/-- What the scanner cuts a text into. -/
inductive Token
  | versionDirective (major minor : Nat)
  /-- Defines a tag handle by what it abbreviates. -/
  | tagDirective (handle : String) (expansion : Tag)
  | documentStart
  | documentEnd
  | blockSequenceStart
  | blockMappingStart
  | blockEnd
  | flowSequenceStart
  | flowSequenceEnd
  | flowMappingStart
  | flowMappingEnd
  | blockEntry
  | flowEntry
  | key
  | value
  | alias (name : String)
  | anchor (name : String)
  | tag (handle : String) (suffix : Tag)
  | scalar (style : Style) (text : String)
  deriving DecidableEq, Inhabited

end PropShape.Yaml
