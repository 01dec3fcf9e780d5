import ClusterConfig.Yaml.Node.Anchors
import ClusterConfig.Yaml.Node.Document
import ClusterConfig.Yaml.Token.Stream
import ClusterConfig.Yaml.Value.Scalar

set_option autoImplicit false

/-!
# Values of documents

From the bytes of a document to its value: decode, split into tokens, read the tree, and replace every
alias by the value of its anchor. Nesting and the expansion of aliases are bounded, and no mapping holds
a key twice.
-/

namespace ClusterConfig.Yaml

def greatestDepth : Nat := 128

/-- How many aliases may be expanded for each mark of the document. -/
def expansionsPerMark : Nat := 100

/-- A computation that counts the expansions of aliases that are left. -/
abbrev Composing (α : Type) : Type := StateT Nat (Except Fault) α

def expand : Composing Unit := do
  match ← get with
  | 0 => throw .repetition
  | left + 1 => set left

def holdsKey (key : Value) (entries : Entries) : Bool :=
  entries.any fun entry => key.same entry.1

/-- The node that a node stands for: an alias stands for the node at its anchor, whose tag is not yet
accounted for. -/
def resolve (places : Array (Option (Node Nat))) (isTagged : Bool) :
    Node Nat → Composing (Node Nat × Bool)
  | .alias place => do
      expand
      match places[place]?.join with
      | some target => pure (target, false)
      | none => throw .grammar
  | node => pure (node, isTagged)

def withTag (tag : Option String) (value : Value) : Value :=
  match tag with
  | some name => .tagged name value
  | none => value

/-- Add an entry to those of a mapping, the last of which stands first. -/
def addEntry (composeKey composeValue : Node Nat → Composing Value) (read : Entries)
    (entry : Node Nat × Node Nat) : Composing Entries := do
  let key ← composeKey entry.1
  if holdsKey key read then throw .duplicateKey
  else
    let value ← composeValue entry.2
    pure ((key, value) :: read)

/-- The value of a node whose collections are nested at most `depth` deep. A tag that is already
accounted for says nothing more; that is so for the content of a tagged value and for the keys of a
tagged mapping. -/
def compose (places : Array (Option (Node Nat))) :
    (depth : Nat) → (isTagged : Bool) → Node Nat → Composing Value
  | depth, isTagged, node => do
    let (target, isTagged) ← resolve places isTagged node
    let name? (tag : Option (List UInt8)) : Option String :=
      if isTagged then none else tag.bind Scalar.tagName?
    match target with
    | .alias _ => throw .grammar
    | .scalar properties style text =>
        let name := name? properties.tag
        let tag := if isTagged || name.isSome then none else properties.tag
        let value ← (Scalar.value tag style text : Except Fault Value)
        pure (withTag name value)
    | .sequence properties items =>
        match depth with
        | 0 => throw .nesting
        | depth + 1 =>
            let items ← items.mapM (compose places depth false)
            pure (withTag (name? properties.tag) (.sequence items))
    | .mapping properties entries =>
        match depth with
        | 0 => throw .nesting
        | depth + 1 =>
            let name := name? properties.tag
            let entries ← entries.foldlM
              (addEntry (compose places depth (isTagged || name.isSome)) (compose places depth false)) []
            pure (withTag name (.mapping entries.reverse))

def readTree (bytes : ByteArray) : Except Fault (Option (Node String)) := do
  let text ← (Utf8.decode bytes).mapError .encoding
  match text.toList.find? fun c => !isAllowed c with
  | some c => throw (.forbiddenCharacter c)
  | none => readDocument (← tokenize (normalizeBreaks text.toList))

/-- The value of the document in the bytes. No document denotes null. -/
def readValue? (bytes : ByteArray) : Except Fault Value := do
  match ← readTree bytes with
  | none => pure .null
  | some tree =>
      let (tree, names) ← tree.locate .empty
      let places := tree.places names
      let (value, _) ← (compose places greatestDepth false tree).run (expansionsPerMark * tree.size)
      pure value

end ClusterConfig.Yaml
