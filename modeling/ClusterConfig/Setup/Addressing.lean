import ClusterConfig.Setup.Fault

set_option autoImplicit false

/-!
# The addresses block

The networks of a cluster and the addresses of its two fixed services, which lie in the network of the
services. The block is read in the order of its keys; whether the services lie in their network is asked
only once all five texts are understood.
-/

namespace ClusterConfig

/-- The networks of a cluster, and the service addresses of its control plane and of its name server. -/
structure Addressing where
  nodes : Network
  pods : Network
  services : Network
  api : Address
  dns : Address
  api_inside : services.contains api = true
  dns_inside : services.contains dns = true
deriving DecidableEq

namespace Addressing

def shape : Shape String where
  name := "addresses"
  keys := ["cidr-nodes", "cidr-pods", "cidr-services", "service-api", "service-dns"]
  accept := Yaml.Value.string?

/-- Demand that an address lies in the network of the services. -/
def inside (services : Network) (address : Address) :
    Except Setup.Fault (PLift (services.contains address = true)) :=
  if found : services.contains address = true then .ok ⟨found⟩
  else .error (.outsideServices address services)

def read (block : Yaml.Value) : Except Setup.Fault Addressing := do
  let record ← Setup.readRecord shape block
  let nodes ← Setup.readNetwork (record.value "cidr-nodes")
  let pods ← Setup.readNetwork (record.value "cidr-pods")
  let services ← Setup.readNetwork (record.value "cidr-services")
  let api ← Setup.readAddress (record.value "service-api")
  let dns ← Setup.readAddress (record.value "service-dns")
  let ⟨api_inside⟩ ← inside services api
  let ⟨dns_inside⟩ ← inside services dns
  pure { nodes, pods, services, api, dns, api_inside, dns_inside }

end Addressing

end ClusterConfig
