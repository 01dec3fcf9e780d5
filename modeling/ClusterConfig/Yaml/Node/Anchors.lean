import ClusterConfig.Yaml.Fault
import ClusterConfig.Yaml.Node

set_option autoImplicit false

/-!
# Anchors

An alias stands for the node of the last anchor before it that has its name. Every anchor gets a place,
and the node of a place is the last node in the document that got it. The place of an anchor is the
number of different names before it, so an anchor that uses a name again shares its place with the next
new name.
-/

namespace ClusterConfig.Yaml

/-- The places of the names so far; the last one given to a name is in front. -/
structure AnchorNames where
  places : List (String × Nat)
  count : Nat

namespace AnchorNames

def empty : AnchorNames := ⟨[], 0⟩

def add (name : String) (names : AnchorNames) : Nat × AnchorNames :=
  let isNew := (names.places.lookup name).isNone
  (names.count, ⟨(name, names.count) :: names.places, if isNew then names.count + 1 else names.count⟩)

def addOf (properties : Properties String) (names : AnchorNames) : Properties Nat × AnchorNames :=
  match properties.anchor with
  | none => (⟨none, properties.tag⟩, names)
  | some name =>
      let (place, names) := names.add name
      (⟨some place, properties.tag⟩, names)

end AnchorNames

namespace Node

mutual

def locate : Node String → AnchorNames → Except Fault (Node Nat × AnchorNames)
  | .alias name, names =>
      match names.places.lookup name with
      | some place => .ok (.alias place, names)
      | none => .error (.unknownAnchor name)
  | .scalar properties style text, names =>
      let (properties, names) := names.addOf properties
      .ok (.scalar properties style text, names)
  | .sequence properties items, names => do
      let (properties, names) := names.addOf properties
      let (items, names) ← locateItems items names
      pure (.sequence properties items, names)
  | .mapping properties entries, names => do
      let (properties, names) := names.addOf properties
      let (entries, names) ← locateEntries entries names
      pure (.mapping properties entries, names)

def locateItems : List (Node String) → AnchorNames → Except Fault (List (Node Nat) × AnchorNames)
  | [], names => .ok ([], names)
  | item :: rest, names => do
      let (item, names) ← item.locate names
      let (rest, names) ← locateItems rest names
      pure (item :: rest, names)

def locateEntries : List (Node String × Node String) → AnchorNames →
    Except Fault (List (Node Nat × Node Nat) × AnchorNames)
  | [], names => .ok ([], names)
  | (key, value) :: rest, names => do
      let (key, names) ← key.locate names
      let (value, names) ← value.locate names
      let (rest, names) ← locateEntries rest names
      pure ((key, value) :: rest, names)

end

def fill (properties : Properties Nat) (node : Node Nat) (places : Array (Option (Node Nat))) :
    Array (Option (Node Nat)) :=
  match properties.anchor with
  | none => places
  | some place => places.setIfInBounds place (some node)

mutual

/-- Fill the places of a node and of the nodes inside it, in document order. -/
def fillAll (node : Node Nat) (places : Array (Option (Node Nat))) : Array (Option (Node Nat)) :=
  match node with
  | .alias _ => places
  | .scalar properties style text => fill properties (.scalar properties style text) places
  | .sequence properties items =>
      fillItems items (fill properties (.sequence properties items) places)
  | .mapping properties entries =>
      fillEntries entries (fill properties (.mapping properties entries) places)

def fillItems : List (Node Nat) → Array (Option (Node Nat)) → Array (Option (Node Nat))
  | [], places => places
  | item :: rest, places => fillItems rest (fillAll item places)

def fillEntries : List (Node Nat × Node Nat) → Array (Option (Node Nat)) → Array (Option (Node Nat))
  | [], places => places
  | (key, value) :: rest, places => fillEntries rest (fillAll value (fillAll key places))

end

/-- The nodes of the places that anchors got in a tree with the given names. No place is greater than the
number of names. -/
def places (node : Node Nat) (names : AnchorNames) : Array (Option (Node Nat)) :=
  node.fillAll (Array.replicate (names.count + 1) none)

end Node

end ClusterConfig.Yaml
