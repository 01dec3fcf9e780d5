import ClusterConfig.Text.Utf8

set_option autoImplicit false

/-!
# Faults of YAML documents

Everything that keeps a document from being read, from its bytes to the values in it.
-/

namespace ClusterConfig.Yaml

/-- A place in a document; lines and columns count from zero. -/
structure Mark where
  offset : Nat
  line : Nat
  column : Nat
deriving DecidableEq, Repr

inductive Fault where
  | encoding (fault : Utf8.Fault)
  | forbiddenCharacter (c : Char)
  | token (mark : Mark)
  | grammar
  | severalDocuments
  | unknownAnchor (name : String)
  | nesting
  | repetition
  | duplicateKey
  | integerRange (text : String)
  | scalarForm (text : String)
deriving DecidableEq, Repr

def Fault.message : Fault → String
  | .encoding fault => fault.message
  | .forbiddenCharacter c => "control character U+" ++ String.ofList (Nat.toDigits 16 c.toNat)
  | .token mark =>
      "unexpected text at line " ++ (mark.line + 1).repr ++ " column " ++ (mark.column + 1).repr
  | .grammar => "unexpected document structure"
  | .severalDocuments => "more than one document"
  | .unknownAnchor name => "unknown anchor " ++ name
  | .nesting => "collections nested too deeply"
  | .repetition => "aliases expanded too often"
  | .duplicateKey => "duplicate key in a mapping"
  | .integerRange text => "integer out of range: " ++ text
  | .scalarForm text => "value does not match its tag: " ++ text

end ClusterConfig.Yaml
