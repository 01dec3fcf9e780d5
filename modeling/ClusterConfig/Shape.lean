import ClusterConfig.Yaml.Value.Text

set_option autoImplicit false

/-!
# Shapes of mappings

A shape lists the keys that a mapping must have, each exactly, and says what its values are read as.
Checking a mapping finds a key that is not expected before one that is missing, and a missing key before
a value that cannot be read. A mapping that passes has a value under every key of its shape.
-/

namespace ClusterConfig

open Yaml

/-- A mapping with a fixed set of keys, and what the value under a key is read as if it is acceptable
there. -/
structure Shape (α : Type) where
  name : String
  keys : List String
  accept : String → Value → Option α

/-- A reading of values that does not look at their keys is the same reading under every key. -/
instance {α : Type} : Coe (Value → Option α) (String → Value → Option α) := ⟨fun read _ => read⟩

namespace Shape

inductive Fault where
  | unexpectedKey (key : String)
  | missingKey (key : String)
  | invalidValue (key value : String)
  | notMapping (name : String)
  | notSequence (name : String)
  | notStrings (name : String)
deriving DecidableEq, Repr

def Fault.message : Fault → String
  | .unexpectedKey key => "unexpected key " ++ key ++ " in config"
  | .missingKey key => "could not find expected key " ++ key ++ " in config"
  | .invalidValue key value =>
      "config failed validation: key " ++ key ++ " had invalid value " ++ value
  | .notMapping name => "in config: expected " ++ name ++ " to be a mapping"
  | .notSequence name => "in config: expected " ++ name ++ " to be a list"
  | .notStrings name => "in config: expected every element of " ++ name ++ " to be a string"

def entries (name : String) (value : Value) : Except Fault Entries :=
  match value.entries? with
  | some entries => .ok entries
  | none => .error (.notMapping name)

def items (name : String) (value : Value) : Except Fault (List Value) :=
  match value.items? with
  | some items => .ok items
  | none => .error (.notSequence name)

def strings (name : String) (value : Value) : Except Fault (List String) := do
  let items ← Shape.items name value
  match items.mapM Value.string? with
  | some texts => .ok texts
  | none => .error (.notStrings name)

variable {α : Type}

/-- Whether a key is the text of an expected key. A tag on the key does not matter. -/
def expects (shape : Shape α) (key : Value) : Bool :=
  key.string?.any shape.keys.contains

def lookup? (shape : Shape α) (entries : Entries) (key : String) : Option α :=
  (entries.get? key).bind (shape.accept key)

/-- The text that the value of an entry is read under. A tag on the key does not matter. -/
def keyText (key : Value) : String := key.string?.getD ""

def refuses (shape : Shape α) (entry : Value × Value) : Bool :=
  (shape.accept (keyText entry.1) entry.2).isNone

structure Record (shape : Shape α) where
  entries : Entries
  complete : ∀ key ∈ shape.keys, (shape.lookup? entries key).isSome

namespace Record

variable {shape : Shape α}

def value (record : Record shape) (key : String) (expected : key ∈ shape.keys := by decide) : α :=
  (shape.lookup? record.entries key).get (record.complete key expected)

def values (record : Record shape) : List α :=
  shape.keys.attach.map fun key => record.value key.1 key.2

theorem lookup?_eq_some (record : Record shape) {key : String} (expected : key ∈ shape.keys) :
    shape.lookup? record.entries key = some (record.value key expected) := by
  simp [value]

theorem length_values (record : Record shape) : record.values.length = shape.keys.length := by
  simp [values]

end Record

theorem isSome_lookup? {shape : Shape α} {entries : Entries}
    (present : shape.keys.find? (fun key => (entries.get? key).isNone) = none)
    (accepted : entries.find? shape.refuses = none) :
    ∀ key ∈ shape.keys, (shape.lookup? entries key).isSome := by
  intro key expected
  have found := List.find?_eq_none.mp present key expected
  obtain ⟨value, isValue⟩ := Option.ne_none_iff_exists'.mp (by simpa using found)
  have accepts := List.find?_eq_none.mp accepted _ (Entries.mem_of_get? isValue)
  have acceptable : (shape.accept key value).isSome := by
    simpa [refuses, keyText, Option.ne_none_iff_isSome] using accepts
  simpa [lookup?, isValue] using acceptable

/-- Check the entries of a mapping. Among several keys that are not expected, and among several values
that are not acceptable, the first in the document is reported; among several missing keys the first in
the shape. -/
def check (shape : Shape α) (entries : Entries) : Except Fault (Record shape) :=
  match entries.find? fun entry => !shape.expects entry.1 with
  | some (key, _) => .error (.unexpectedKey key.text)
  | none =>
      match present : shape.keys.find? fun key => (entries.get? key).isNone with
      | some key => .error (.missingKey key)
      | none =>
          match accepted : entries.find? shape.refuses with
          | some (key, value) => .error (.invalidValue (keyText key) value.text)
          | none => .ok ⟨entries, isSome_lookup? present accepted⟩

def read (shape : Shape α) (value : Value) : Except Fault (Record shape) := do
  shape.check (← Shape.entries shape.name value)

end Shape

end ClusterConfig
