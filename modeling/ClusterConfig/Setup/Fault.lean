import ClusterConfig.Net.Network
import ClusterConfig.Shape

set_option autoImplicit false

/-!
# Faults of setup documents

Everything that keeps the value of a setup document from being a setup.
-/

namespace ClusterConfig.Setup

inductive Fault where
  | shape (fault : Shape.Fault)
  | notAddress (text : String)
  | notNetwork (fault : Network.Fault)
  | notNodeKind (text : String)
  | outsideServices (address : Address) (services : Network)
  | severalSupervisors
deriving DecidableEq

def Fault.message : Fault → String
  | .shape fault => fault.message
  | .notAddress text => "invalid IPv4 address: " ++ text
  | .notNetwork fault => "invalid IPv4 network: " ++ fault.message
  | .notNodeKind text => "invalid node kind: " ++ text
  | .outsideServices address services =>
      "in config: expected service IPs to be in the correct CIDR (" ++ address.text ++ " not in "
        ++ services.text ++ ")"
  | .severalSupervisors => "in config: multiple supervisors not yet supported"

def readAddress (text : String) : Except Fault Address :=
  match Address.parse? text with
  | some address => .ok address
  | none => .error (.notAddress text)

def readNetwork (text : String) : Except Fault Network :=
  (Network.parse text).mapError .notNetwork

def readRecord {α : Type} (shape : Shape α) (value : Yaml.Value) :
    Except Fault (Shape.Record shape) :=
  (shape.read value).mapError .shape

end ClusterConfig.Setup
