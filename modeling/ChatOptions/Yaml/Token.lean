import ChatOptions.Yaml.Fault

/-! The tokens of a YAML text. -/

namespace ChatOptions

namespace Yaml

/-- How a scalar is written. -/
inductive ScalarStyle where
  | plain
  | quoted
  | literal
  | folded
deriving DecidableEq, Repr

/-- What a token is. -/
inductive Lexeme where
  | streamEnd
  | versionDirective (major minor : Nat)
  /-- What a handle stands for, which need not be text. -/
  | tagDirective (handle : List Char) (lead : List UInt8)
  | documentStart
  | documentEnd
  | blockSequenceStart
  | blockMappingStart
  /-- A collection that is delimited by its indentation ends. -/
  | blockEnd
  | flowSequenceStart
  | flowSequenceEnd
  | flowMappingStart
  | flowMappingEnd
  | blockEntry
  | flowEntry
  /-- What follows is a key. -/
  | key
  /-- What follows is a value. -/
  | value
  | reference (name : List Char)
  | anchor (name : List Char)
  | tag (handle : List Char) (suffix : List UInt8)
  | scalar (style : ScalarStyle) (text : List Char)
deriving DecidableEq

/-- A token, from its first character to behind its last. -/
structure Token where
  lexeme : Lexeme
  start : Mark
  stop : Mark

end Yaml

end ChatOptions
