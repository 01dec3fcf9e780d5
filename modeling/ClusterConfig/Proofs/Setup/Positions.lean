import ClusterConfig.Setup.Document

set_option autoImplicit false

/-!
# Positions of values

The values of a record stand in the order of the keys of its shape. So each block of a setup document, which
is read by the names of its keys, is read by the positions of its values as well, with the same faults.
-/

namespace ClusterConfig

open Yaml

namespace Shape.Record

variable {α : Type} {shape : Shape α}

/-- The value at a position among all values of a record. -/
def valueAt (record : Record shape) (index : Nat) (inRange : index < shape.keys.length := by decide) : α :=
  record.values.get ⟨index, record.length_values.symm ▸ inRange⟩

theorem valueAt_eq (record : Record shape) {index : Nat} (inRange : index < shape.keys.length) :
    record.valueAt index inRange = record.value shape.keys[index] (List.getElem_mem inRange) := by
  simp [valueAt, values]

end Shape.Record

open Shape.Record

theorem Cluster.read_by_position (block : Value) :
    Cluster.read block = (do
      let record ← Setup.readRecord shape block
      pure {
        externalDomain := record.valueAt 0
        internalDomain := record.valueAt 1
        etcdToken := record.valueAt 2
        kerberosRealm := record.valueAt 3
        softwareSource := record.valueAt 4
        userGrantDomain := record.valueAt 5
        userGrantEmailDomain := record.valueAt 6 }) := by
  simp only [valueAt_eq]
  rfl

theorem Addressing.read_by_position (block : Value) :
    Addressing.read block = (do
      let record ← Setup.readRecord shape block
      let nodes ← Setup.readNetwork (record.valueAt 0)
      let pods ← Setup.readNetwork (record.valueAt 1)
      let services ← Setup.readNetwork (record.valueAt 2)
      let api ← Setup.readAddress (record.valueAt 3)
      let dns ← Setup.readAddress (record.valueAt 4)
      let ⟨api_inside⟩ ← inside services api
      let ⟨dns_inside⟩ ← inside services dns
      pure { nodes, pods, services, api, dns, api_inside, dns_inside }) := by
  simp only [valueAt_eq]
  rfl

theorem Node.read_by_position (entry : Value) :
    Node.read entry = (do
      let record ← Setup.readRecord shape entry
      let address ← Setup.readAddress (record.valueAt 1).text
      let kind ← Kind.read (record.valueAt 2).text
      pure { hostname := (record.valueAt 0).text, address, kind }) := by
  simp only [valueAt_eq]
  rfl

theorem Setup.read_by_position (document : Value) :
    Setup.read document = (do
      let root ← readRecord shape document
      let cluster ← Cluster.read (root.valueAt 0)
      let addressing ← Addressing.read (root.valueAt 1)
      let nameServers ← readNameServers (root.valueAt 2)
      let dnsBootstrap ← readBootstrap (root.valueAt 3)
      let rootAdmins ← readAdmins (root.valueAt 4)
      let nodes ← readNodes (root.valueAt 5)
      let ⟨supervisors_le⟩ ← singleSupervisor nodes
      pure { cluster, addressing, nameServers, dnsBootstrap, rootAdmins, nodes, supervisors_le }) := by
  simp only [valueAt_eq]
  rfl

end ClusterConfig
