import ClusterConfig.Failure
import ClusterConfig.Setup.Document

set_option autoImplicit false

/-!
# Finding nodes

Nodes by name and by kind, and the one qualified name of a node that is named in one of three ways: by
its host name alone, or by its host name in the external or in the internal domain.
-/

namespace ClusterConfig.Setup

def hasNode (setup : Setup) (name : String) : Bool :=
  setup.nodes.any fun node => node.hostname == name

def node (setup : Setup) (name : String) : Except Failure Node :=
  match setup.nodes.find? fun node => node.hostname == name with
  | some node => .ok node
  | none => .error (.noSuchNode name)

def nodesOfKind (setup : Setup) (kind : Node.Kind) : List Node :=
  setup.nodes.filter fun node => node.kind = kind

def anyNode (setup : Setup) (kind : Node.Kind) : Except Failure Node :=
  match setup.nodes.find? fun node => node.kind = kind with
  | some node => .ok node
  | none => .error (.noNodeOfKind kind)

def keyserver? (setup : Setup) : Option Node := setup.nodes.find? Node.isSupervisor

/-- Whether administrators are authenticated; they are as soon as there are any. -/
def usesKerberos (setup : Setup) : Bool := !setup.rootAdmins.isEmpty

def qualify (setup : Setup) (hostname : String) : String :=
  hostname ++ "." ++ setup.cluster.externalDomain

/-- The host names that a name may stand for, the preferred one first: what is left of it without the
external and without the internal domain, or the name itself if it is in neither domain. -/
def candidates (setup : Setup) (name : String) : List String :=
  let domains := [setup.cluster.externalDomain, setup.cluster.internalDomain]
  let stripped := domains.filterMap fun domain => Text.withoutSuffix? ("." ++ domain) name
  if stripped.isEmpty then [name] else stripped

def qualifiedName (setup : Setup) (name : String) : Except Failure String :=
  match (setup.candidates name).find? setup.hasNode with
  | some hostname => .ok (setup.qualify hostname)
  | none => .error (.noSuchNode name)

end ClusterConfig.Setup
