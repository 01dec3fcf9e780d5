import ClusterConfig.Yaml.Number

set_option autoImplicit false

/-!
# Values

The values that YAML documents denote. A value may carry a local tag, which most readers look through;
looking up a mapping key by name does not.
-/

namespace ClusterConfig.Yaml

/-- A value of a document. Mappings keep the order of their entries. -/
inductive Value where
  | null
  | bool (value : Bool)
  | number (value : Number)
  | string (text : String)
  | sequence (items : List Value)
  | mapping (entries : List (Value × Value))
  | tagged (tag : String) (value : Value)
deriving Repr

abbrev Entries := List (Value × Value)

namespace Value

mutual

/-- Whether two values are the same mapping key. The order of the entries of mappings does not count. -/
def same : Value → Value → Bool
  | .null, .null => true
  | .bool left, .bool right => left == right
  | .number left, .number right => left.same right
  | .string left, .string right => left == right
  | .sequence left, .sequence right => sameItems left right
  | .mapping left, .mapping right => left.length == right.length && sameEntries left right
  | .tagged tag left, .tagged tag' right => tag == tag' && same left right
  | _, _ => false

def sameItems : List Value → List Value → Bool
  | [], [] => true
  | left :: lefts, right :: rights => same left right && sameItems lefts rights
  | _, _ => false

def sameEntries : Entries → Entries → Bool
  | [], _ => true
  | (key, value) :: rest, entries =>
      entries.any (fun entry => same key entry.1 && same value entry.2) && sameEntries rest entries

end

def untagged : Value → Value
  | .tagged _ value => untagged value
  | value => value

def string? (value : Value) : Option String :=
  match value.untagged with
  | .string text => some text
  | _ => none

def items? (value : Value) : Option (List Value) :=
  match value.untagged with
  | .sequence items => some items
  | _ => none

def entries? (value : Value) : Option Entries :=
  match value.untagged with
  | .mapping entries => some entries
  | _ => none

/-- Whether a value is the string with the given text, without a tag. -/
def isString (text : String) : Value → Bool
  | .string other => other == text
  | _ => false

theorem isString_iff {text : String} {value : Value} :
    value.isString text = true ↔ value = .string text := by
  cases value <;> simp [isString]

@[simp] theorem string?_string (text : String) : (Value.string text).string? = some text := rfl

end Value

namespace Entries

/-- The value under the key that is the string `name`. Keys with a tag are not found. -/
def get? (name : String) (entries : Entries) : Option Value :=
  (entries.find? fun entry => entry.1.isString name).map (·.2)

theorem mem_of_get? {name : String} {entries : Entries} {value : Value}
    (found : entries.get? name = some value) : (Value.string name, value) ∈ entries := by
  obtain ⟨⟨key, value'⟩, isEntry, rfl⟩ := Option.map_eq_some_iff.mp found
  have isName : key = .string name := Value.isString_iff.mp (by simpa using List.find?_some isEntry)
  exact isName ▸ List.mem_of_find?_eq_some isEntry

theorem get?_eq_none_iff {name : String} {entries : Entries} :
    entries.get? name = none ↔ ∀ entry ∈ entries, entry.1 ≠ .string name := by
  simp [get?, ← Value.isString_iff]

end Entries

end ClusterConfig.Yaml
