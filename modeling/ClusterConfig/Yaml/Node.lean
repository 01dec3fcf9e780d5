import ClusterConfig.Yaml.Token

set_option autoImplicit false

/-!
# Nodes

The tree that a document denotes before its scalars are typed and its aliases are replaced. The type of
what anchors and aliases hold is a parameter: names as they are written, or the places that the names
denote.
-/

namespace ClusterConfig.Yaml

structure Properties (Anchor : Type) where
  anchor : Option Anchor
  tag : Option (List UInt8)
deriving DecidableEq, Repr

def Properties.absent {Anchor : Type} : Properties Anchor := ⟨none, none⟩

inductive Node (Anchor : Type) where
  | scalar (properties : Properties Anchor) (style : ScalarStyle) (text : String)
  | sequence (properties : Properties Anchor) (items : List (Node Anchor))
  | mapping (properties : Properties Anchor) (entries : List (Node Anchor × Node Anchor))
  | alias (target : Anchor)
deriving Repr

namespace Node

variable {Anchor : Type}

def empty : Node Anchor := .scalar .absent .plain ""

mutual

/-- The number of marks that a node consists of: scalars, aliases, and the beginnings and ends of
collections. -/
def size : Node Anchor → Nat
  | .scalar _ _ _ | .alias _ => 1
  | .sequence _ items => itemsSize items + 2
  | .mapping _ entries => entriesSize entries + 2

def itemsSize : List (Node Anchor) → Nat
  | [] => 0
  | item :: rest => item.size + itemsSize rest

def entriesSize : List (Node Anchor × Node Anchor) → Nat
  | [] => 0
  | (key, value) :: rest => key.size + value.size + entriesSize rest

end

end Node

end ClusterConfig.Yaml
