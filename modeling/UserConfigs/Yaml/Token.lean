import UserConfigs.Yaml.Mark

/-!
# Tokens

The pieces a YAML text is cut into. Besides the signs in the text there are tokens for what
indentation alone tells : where a block starts and ends, and where the key of a mapping
starts.
-/

namespace UserConfigs.Yaml

/-- How a scalar is written. -/
inductive Style where
  | plain
  | singleQuoted
  | doubleQuoted
  | literal
  | folded
  deriving Repr, DecidableEq

/-- What a token is. -/
inductive Sign where
  | streamStart
  | streamEnd
  | version (major minor : Nat)
  /-- A handle for tags, and what it stands for. -/
  | tagHandle (handle stem : List Char)
  | documentStart
  | documentEnd
  | blockSequenceStart
  | blockMappingStart
  | blockEnd
  | flowSequenceStart
  | flowSequenceEnd
  | flowMappingStart
  | flowMappingEnd
  | blockEntry
  | flowEntry
  | key
  | value
  | aliasOf (name : List Char)
  | anchor (name : List Char)
  | tag (handle suffix : List Char)
  | scalar (text : List Char) (style : Style)
  deriving Repr, DecidableEq

/-- A piece of a text with its ends. -/
structure Token where
  sign : Sign
  start : Mark
  stop : Mark
  deriving Repr, DecidableEq

end UserConfigs.Yaml
