import ClusterConfig.Dictionary
import ClusterConfig.Setup.Addressing
import ClusterConfig.Setup.Cluster
import ClusterConfig.Setup.Node

set_option autoImplicit false

/-!
# Setups

What a setup document describes: a cluster, its networks, its name servers, its administrators and its
nodes. The blocks are read in a fixed order, which is the order in which their faults are reported, and
not the order in which they stand in the document.
-/

namespace ClusterConfig

/-- The contents of a setup document. The hosts of `dnsBootstrap` must be known before any name server
is. -/
structure Setup where
  cluster : Cluster
  addressing : Addressing
  nameServers : List Address
  dnsBootstrap : Dictionary Address
  rootAdmins : List String
  nodes : List Node
  supervisors_le : nodes.countP Node.isSupervisor ≤ 1
deriving DecidableEq

namespace Setup

def shape : Shape Yaml.Value where
  name := "setup.yaml"
  keys := ["cluster", "addresses", "dns-upstreams", "dns-bootstrap", "root-admins", "nodes"]
  accept _ := some

def readNameServers (block : Yaml.Value) : Except Fault (List Address) := do
  let servers ← (Shape.items "dns-upstreams" block).mapError .shape
  servers.mapM fun server => readAddress server.text

def readHost (entry : Yaml.Value × Yaml.Value) : Except Fault (String × Address) := do
  let address ← readAddress entry.2.text
  pure (entry.1.text, address)

/-- Read a table of hosts. Where several keys have one text, the last of them counts. -/
def readBootstrap (block : Yaml.Value) : Except Fault (Dictionary Address) := do
  let entries ← (Shape.entries "dns-bootstrap" block).mapError .shape
  let hosts ← entries.mapM readHost
  pure (.ofList hosts)

def readAdmins (block : Yaml.Value) : Except Fault (List String) :=
  (Shape.strings "root-admins" block).mapError .shape

def readNodes (block : Yaml.Value) : Except Fault (List Node) := do
  let entries ← (Shape.items "nodes" block).mapError .shape
  entries.mapM Node.read

def singleSupervisor (nodes : List Node) :
    Except Fault (PLift (nodes.countP Node.isSupervisor ≤ 1)) :=
  if single : nodes.countP Node.isSupervisor ≤ 1 then .ok ⟨single⟩
  else .error .severalSupervisors

def read (document : Yaml.Value) : Except Fault Setup := do
  let root ← readRecord shape document
  let cluster ← Cluster.read (root.value "cluster")
  let addressing ← Addressing.read (root.value "addresses")
  let nameServers ← readNameServers (root.value "dns-upstreams")
  let dnsBootstrap ← readBootstrap (root.value "dns-bootstrap")
  let rootAdmins ← readAdmins (root.value "root-admins")
  let nodes ← readNodes (root.value "nodes")
  let ⟨supervisors_le⟩ ← singleSupervisor nodes
  pure { cluster, addressing, nameServers, dnsBootstrap, rootAdmins, nodes, supervisors_le }

end Setup

end ClusterConfig
