import ClusterConfig.Setup.Fault

set_option autoImplicit false

/-!
# Nodes

The machines of a cluster. An entry of the list of nodes is read by the texts of its values, so that a
value of the wrong type is a bad address or a bad kind; any value has a text that can be a host name.
-/

namespace ClusterConfig

/-- What a node does in its cluster. The supervisor holds the key server. -/
inductive Node.Kind where
  | master
  | worker
  | supervisor
deriving DecidableEq, Repr

structure Node where
  hostname : String
  address : Address
  kind : Node.Kind
deriving DecidableEq, Repr

namespace Node

namespace Kind

def all : List Kind := [.master, .worker, .supervisor]

def text : Kind → String
  | .master => "master"
  | .worker => "worker"
  | .supervisor => "supervisor"

def parse? (word : String) : Option Kind :=
  all.find? fun kind => kind.text == word

theorem parse?_text (kind : Kind) : parse? kind.text = some kind := by
  cases kind <;> decide

def read (word : String) : Except Setup.Fault Kind :=
  match parse? word with
  | some kind => .ok kind
  | none => .error (.notNodeKind word)

end Kind

def shape : Shape Yaml.Value where
  name := "nodes"
  keys := ["hostname", "ip", "kind"]
  accept _ := some

def read (entry : Yaml.Value) : Except Setup.Fault Node := do
  let record ← Setup.readRecord shape entry
  let address ← Setup.readAddress (record.value "ip").text
  let kind ← Kind.read (record.value "kind").text
  pure { hostname := (record.value "hostname").text, address, kind }

def text (node : Node) : String :=
  node.kind.text ++ " node " ++ node.hostname ++ " (" ++ node.address.text ++ ")"

def isSupervisor (node : Node) : Bool := node.kind = .supervisor

end Node

end ClusterConfig
