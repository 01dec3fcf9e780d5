import ClusterConfig.Setup.ControlPlane
import ClusterConfig.Generated.EnvFile

set_option autoImplicit false

/-!
# The cluster's environment file

The settings that every node of a cluster starts from.
-/

namespace ClusterConfig.Setup

def clusterConfHeader : String := "# generated by spire from setup.yaml"

def clusterConfEntries (setup : Setup) (endpoint : String) : List (String × String) :=
  [("APISERVER", endpoint),
    ("APISERVER_COUNT", setup.masters.length.repr),
    ("CLUSTER_CIDR", setup.addressing.pods.text),
    ("CLUSTER_DOMAIN", setup.cluster.internalDomain),
    ("DOMAIN", setup.cluster.externalDomain),
    ("ETCD_CLUSTER", setup.storeMembers),
    ("ETCD_ENDPOINTS", setup.storeEndpoints),
    ("ETCD_TOKEN", setup.cluster.etcdToken),
    ("SERVICE_API", setup.addressing.api.text),
    ("SERVICE_CIDR", setup.addressing.services.text),
    ("SERVICE_DNS", setup.addressing.dns.text)]

def clusterConf (setup : Setup) : Except Failure EnvFile := do
  let endpoint ← setup.defaultEndpoint
  pure ⟨clusterConfHeader, .ofList (setup.clusterConfEntries endpoint)⟩

def clusterConfText (setup : Setup) : Except Failure String := do
  pure (← setup.clusterConf).text

end ClusterConfig.Setup
