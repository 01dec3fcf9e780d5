import ClusterConfig.Net.Address

set_option autoImplicit false

/-!
# Services

What the nodes of a cluster listen for, and under which number each of them does.
-/

namespace ClusterConfig

/-- What a node listens for. -/
inductive Service where
  | api
  | storeClients
  | storePeers
  | nodeMetrics
  | storeMetrics
  | pullMetrics
deriving DecidableEq, Repr

def Service.number : Service → Nat
  | .api => 443
  | .storeClients => 2379
  | .storePeers => 2380
  | .nodeMetrics => 9100
  | .storeMetrics => 9101
  | .pullMetrics => 9103

def Address.endpoint (address : Address) (service : Service) : String :=
  "https://" ++ address.text ++ ":" ++ service.number.repr

end ClusterConfig
