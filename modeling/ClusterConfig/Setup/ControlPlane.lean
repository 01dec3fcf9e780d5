import ClusterConfig.Setup.Lookup
import ClusterConfig.Setup.Service

set_option autoImplicit false

/-!
# The control plane

What the generated files say about the nodes of the control plane. The first of them in the document is
the one that clients talk to.
-/

namespace ClusterConfig.Setup

def masters (setup : Setup) : List Node := setup.nodesOfKind .master

/-- The node of the control plane that clients talk to. -/
def defaultMaster (setup : Setup) : Except Failure Node :=
  (setup.anyNode .master).mapError fun _ => .noMaster

def defaultEndpoint (setup : Setup) : Except Failure String := do
  let node ← setup.defaultMaster
  pure (node.address.endpoint .api)

def storeEndpoints (setup : Setup) : String :=
  Text.join "," (setup.masters.map fun node => node.address.endpoint .storeClients)

def storeMembers (setup : Setup) : String :=
  Text.join "," (setup.masters.map fun node =>
    node.hostname ++ "=" ++ node.address.endpoint .storePeers)

def keyserverName (setup : Setup) : Except Failure String :=
  match setup.keyserver? with
  | some node => .ok (setup.qualify node.hostname)
  | none => .error .noSupervisor

end ClusterConfig.Setup
