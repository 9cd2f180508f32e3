import CommentSwitch.Yaml.Character

/-!
# Tokens of YAML

The tokens of a stream.  Indentation has become tokens too: a collection in block
style is opened and closed by tokens of its own.
-/

namespace CommentSwitch

namespace Yaml

/-- How a scalar is written. -/
inductive ScalarStyle
  | plain | singleQuoted | doubleQuoted | literal | folded
  deriving DecidableEq, Repr

/-- The tokens of a stream. -/
inductive Token
  | versionDirective (major minor : Nat)
  | tagDirective (handle expansion : Text)
  | documentStart
  | documentEnd
  | streamEnd
  | blockSequenceStart
  | blockMappingStart
  | blockEnd
  | flowSequenceStart
  | flowSequenceEnd
  | flowMappingStart
  | flowMappingEnd
  | blockEntry
  | flowEntry
  | key
  | value
  | aliasOf (name : Text)
  | anchor (name : Text)
  | tag (handle suffix : Text)
  | scalar (style : ScalarStyle) (text : Text)
  deriving DecidableEq, Repr

end Yaml

end CommentSwitch
