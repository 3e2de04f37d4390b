import PromptScript.Yaml.Mark

/-!
# Yaml.Token

The tokens of a YAML text.
-/

namespace PromptScript.Yaml

inductive ScalarStyle where
  | plain
  | quoted
  | block
  deriving DecidableEq, Repr

inductive Token where
  | streamStart
  | streamEnd
  | versionDirective (major minor : Nat)
  | tagDirective (handle start : List Char)
  | documentStart
  | documentEnd
  | blockSequenceStart
  | blockMappingStart
  | blockEnd
  | flowSequenceStart
  | flowSequenceEnd
  | flowMappingStart
  | flowMappingEnd
  | blockEntry
  | flowEntry
  | key
  | value
  | aliasName (name : List Char)
  | anchor (name : List Char)
  | tag (handle suffix : List Char)
  | scalar (text : List Char) (style : ScalarStyle)
  deriving DecidableEq, Repr

/-- A token with the line it starts on, counted from 0. -/
structure PlacedToken where
  token : Token
  line : Nat
  deriving DecidableEq, Repr

end PromptScript.Yaml
