set_option autoImplicit false

/-!
# Tokens

The words of a YAML document. Indentation appears as tokens that open and close block collections.
-/

namespace ClusterConfig.Yaml

/-- How a scalar is written: only a plain one is subject to typing. -/
inductive ScalarStyle where
  | plain
  | quoted
  | block
deriving DecidableEq, Repr

/-- A word of a document. Tags are kept as bytes, since escapes can spell bytes that are no text. -/
inductive Token where
  | versionDirective (major minor : Nat)
  | tagDirective (handle : String) (expansion : List UInt8)
  | documentStart
  | documentEnd
  | blockSequenceStart
  | blockMappingStart
  | blockEnd
  | flowSequenceStart
  | flowSequenceEnd
  | flowMappingStart
  | flowMappingEnd
  | blockEntry
  | flowEntry
  | key
  | value
  | alias (name : String)
  | anchor (name : String)
  | tag (handle : String) (suffix : List UInt8)
  | scalar (style : ScalarStyle) (text : String)
deriving DecidableEq, Repr

end ClusterConfig.Yaml
