import ClusterConfig.Proofs.Shape
import ClusterConfig.Setup.Document

set_option autoImplicit false

/-!
# Contents of blocks

What the blocks of fixed shape in a setup document say, key by key, and that reading them yields exactly
this.
-/

namespace ClusterConfig

namespace Yaml.Value

/-- The value under a key, through tags on the mapping. -/
def field? (key : String) (value : Value) : Option Value :=
  value.entries?.bind fun entries => entries.get? key

def fieldText? (key : String) (value : Value) : Option String :=
  (value.field? key).bind string?

end Yaml.Value

open Yaml

namespace Setup

variable {α : Type} {shape : Shape α} {value : Value} {record : Shape.Record shape}

theorem readRecord_eq_ok_iff :
    readRecord shape value = .ok record ↔
      value.entries? = some record.entries ∧ shape.Fits record.entries := by
  rw [readRecord, Reading.mapError_eq_ok_iff, Shape.read_eq_ok_iff]

theorem exists_readRecord_iff :
    (∃ record, readRecord shape value = .ok record) ↔ shape.Accepts value := by
  constructor
  · intro loads
    obtain ⟨record, isRead⟩ := loads
    exact ⟨_, readRecord_eq_ok_iff.mp isRead⟩
  · intro facts
    obtain ⟨entries, isMapping, fits⟩ := facts
    obtain ⟨record, checked⟩ := Reading.fault?_eq_none_iff.mp
      ((Shape.fault?_check shape entries).trans (Shape.fault?_eq_none_iff.mpr fits))
    have same := (Shape.check_eq_ok_iff.mp checked).1
    exact ⟨record, readRecord_eq_ok_iff.mpr ⟨same ▸ isMapping, same ▸ fits⟩⟩

/-- What a record holds under a key is what stands there in the document. -/
theorem field?_of_readRecord (isRead : readRecord shape value = .ok record) (key : String)
    (expected : key ∈ shape.keys := by decide) :
    (value.field? key).bind (shape.accept key) = some (record.value key expected) := by
  rw [Value.field?, (readRecord_eq_ok_iff.mp isRead).1]
  exact record.lookup?_eq_some expected

theorem readAddress_eq_ok_iff {text : String} {address : Address} :
    readAddress text = .ok address ↔ Address.parse? text = some address := by
  unfold readAddress
  split <;> simp_all

theorem readNetwork_eq_ok_iff {text : String} {network : Network} :
    readNetwork text = .ok network ↔ (Network.parse text).toOption = some network := by
  rw [readNetwork, Reading.mapError_eq_ok_iff]
  cases Network.parse text <;> simp [Except.toOption]

end Setup

namespace Cluster

/-- The names of a cluster, each under its own key. -/
structure Describes (block : Value) (cluster : Cluster) : Prop where
  externalDomain : block.fieldText? "external-domain" = some cluster.externalDomain
  internalDomain : block.fieldText? "internal-domain" = some cluster.internalDomain
  etcdToken : block.fieldText? "etcd-token" = some cluster.etcdToken
  kerberosRealm : block.fieldText? "kerberos-realm" = some cluster.kerberosRealm
  softwareSource : block.fieldText? "mirror" = some cluster.softwareSource
  userGrantDomain : block.fieldText? "user-grant-domain" = some cluster.userGrantDomain
  userGrantEmailDomain : block.fieldText? "user-grant-email-domain" = some cluster.userGrantEmailDomain

theorem Describes.unique {block : Value} {left right : Cluster} (first : Describes block left)
    (second : Describes block right) : left = right := by
  cases left
  cases right
  simp only [Cluster.mk.injEq]
  exact ⟨Option.some.inj (first.externalDomain.symm.trans second.externalDomain),
    Option.some.inj (first.internalDomain.symm.trans second.internalDomain),
    Option.some.inj (first.etcdToken.symm.trans second.etcdToken),
    Option.some.inj (first.kerberosRealm.symm.trans second.kerberosRealm),
    Option.some.inj (first.softwareSource.symm.trans second.softwareSource),
    Option.some.inj (first.userGrantDomain.symm.trans second.userGrantDomain),
    Option.some.inj (first.userGrantEmailDomain.symm.trans second.userGrantEmailDomain)⟩

private theorem describes_of_read {block : Value} {cluster : Cluster} (isRead : read block = .ok cluster) :
    shape.Accepts block ∧ Describes block cluster := by
  simp only [read, Reading.bind_eq_ok_iff, Reading.pure_eq_ok_iff] at isRead
  obtain ⟨record, isRecord, rfl⟩ := isRead
  refine ⟨Setup.exists_readRecord_iff.mp ⟨record, isRecord⟩, ?_⟩
  constructor
  · exact Setup.field?_of_readRecord isRecord "external-domain"
  · exact Setup.field?_of_readRecord isRecord "internal-domain"
  · exact Setup.field?_of_readRecord isRecord "etcd-token"
  · exact Setup.field?_of_readRecord isRecord "kerberos-realm"
  · exact Setup.field?_of_readRecord isRecord "mirror"
  · exact Setup.field?_of_readRecord isRecord "user-grant-domain"
  · exact Setup.field?_of_readRecord isRecord "user-grant-email-domain"

theorem read_eq_ok_iff {block : Value} {cluster : Cluster} :
    read block = .ok cluster ↔ shape.Accepts block ∧ Describes block cluster := by
  refine ⟨describes_of_read, fun both => ?_⟩
  obtain ⟨accepts, describes⟩ := both
  obtain ⟨record, isRecord⟩ := Setup.exists_readRecord_iff.mpr accepts
  obtain ⟨cluster', isRead⟩ : ∃ cluster', read block = .ok cluster' := by
    simp only [read, isRecord]
    exact ⟨_, rfl⟩
  rw [isRead, (describes_of_read isRead).2.unique describes]

end Cluster

namespace Addressing

def network? (key : String) (block : Value) : Option Network :=
  (block.fieldText? key).bind fun text => (Network.parse text).toOption

def address? (key : String) (block : Value) : Option Address :=
  (block.fieldText? key).bind Address.parse?

/-- The networks and the addresses of a cluster, each under its own key. -/
structure Describes (block : Value) (addressing : Addressing) : Prop where
  nodes : network? "cidr-nodes" block = some addressing.nodes
  pods : network? "cidr-pods" block = some addressing.pods
  services : network? "cidr-services" block = some addressing.services
  api : address? "service-api" block = some addressing.api
  dns : address? "service-dns" block = some addressing.dns

/-- A block of strings that spell networks and addresses, with both services in their network. -/
structure Loadable (block : Value) : Prop where
  fits : shape.Accepts block
  nodes : (network? "cidr-nodes" block).isSome
  pods : (network? "cidr-pods" block).isSome
  services : ∃ services, network? "cidr-services" block = some services ∧
    ∀ key ∈ ["service-api", "service-dns"], ∃ address,
      address? key block = some address ∧ services.contains address = true

theorem inside_eq_ok {services : Network} {address : Address}
    (found : services.contains address = true) : inside services address = .ok ⟨found⟩ := by
  rw [inside, dif_pos found]

theorem text_of_readRecord {block : Value} {record : shape.Record}
    (isRecord : Setup.readRecord shape block = .ok record) (key : String)
    (expected : key ∈ shape.keys := by decide) :
    block.fieldText? key = some (record.value key expected) :=
  Setup.field?_of_readRecord isRecord key expected

private theorem describes_of_read {block : Value} {addressing : Addressing}
    (isRead : read block = .ok addressing) : shape.Accepts block ∧ Describes block addressing := by
  simp only [read, Reading.bind_eq_ok_iff, Reading.pure_eq_ok_iff, Setup.readNetwork_eq_ok_iff,
    Setup.readAddress_eq_ok_iff] at isRead
  obtain ⟨record, isRecord, nodes, isNodes, pods, isPods, services, isServices, api, isApi, dns, isDns,
    ⟨_⟩, _, ⟨_⟩, _, rfl⟩ := isRead
  refine ⟨Setup.exists_readRecord_iff.mp ⟨record, isRecord⟩, ?_⟩
  constructor
  · simpa [network?, text_of_readRecord isRecord "cidr-nodes"] using isNodes
  · simpa [network?, text_of_readRecord isRecord "cidr-pods"] using isPods
  · simpa [network?, text_of_readRecord isRecord "cidr-services"] using isServices
  · simpa [address?, text_of_readRecord isRecord "service-api"] using isApi
  · simpa [address?, text_of_readRecord isRecord "service-dns"] using isDns

theorem read_eq_ok_iff {block : Value} {addressing : Addressing} :
    read block = .ok addressing ↔ shape.Accepts block ∧ Describes block addressing := by
  refine ⟨describes_of_read, fun both => ?_⟩
  obtain ⟨accepts, describes⟩ := both
  obtain ⟨record, isRecord⟩ := Setup.exists_readRecord_iff.mpr accepts
  have isNodes := describes.nodes
  have isPods := describes.pods
  have isServices := describes.services
  have isApi := describes.api
  have isDns := describes.dns
  simp only [network?, address?, Option.bind_some, ← Setup.readNetwork_eq_ok_iff,
    ← Setup.readAddress_eq_ok_iff, text_of_readRecord isRecord "cidr-nodes",
    text_of_readRecord isRecord "cidr-pods", text_of_readRecord isRecord "cidr-services",
    text_of_readRecord isRecord "service-api", text_of_readRecord isRecord "service-dns"]
    at isNodes isPods isServices isApi isDns
  simp only [read, Reading.bind_eq_ok_iff, Reading.pure_eq_ok_iff]
  exact ⟨record, isRecord, _, isNodes, _, isPods, _, isServices, _, isApi, _, isDns,
    _, inside_eq_ok addressing.api_inside, _, inside_eq_ok addressing.dns_inside, rfl⟩

theorem exists_read_iff {block : Value} :
    (∃ addressing, read block = .ok addressing) ↔ Loadable block := by
  constructor
  · intro loads
    obtain ⟨addressing, isRead⟩ := loads
    obtain ⟨fits, describes⟩ := read_eq_ok_iff.mp isRead
    refine ⟨fits, by simp [describes.nodes], by simp [describes.pods], _, describes.services, ?_⟩
    intro key member
    rcases List.mem_pair.mp member with rfl | rfl
    · exact ⟨_, describes.api, addressing.api_inside⟩
    · exact ⟨_, describes.dns, addressing.dns_inside⟩
  · intro loadable
    obtain ⟨fits, nodes, pods, services, isServices, inside⟩ := loadable
    obtain ⟨nodes, isNodes⟩ := Option.isSome_iff_exists.mp nodes
    obtain ⟨pods, isPods⟩ := Option.isSome_iff_exists.mp pods
    obtain ⟨api, isApi, api_inside⟩ := inside "service-api" (by simp)
    obtain ⟨dns, isDns, dns_inside⟩ := inside "service-dns" (by simp)
    exact ⟨{ nodes, pods, services, api, dns, api_inside, dns_inside },
      read_eq_ok_iff.mpr ⟨fits, isNodes, isPods, isServices, isApi, isDns⟩⟩

end Addressing

namespace Node

theorem Kind.read_eq_ok_iff {word : String} {kind : Kind} :
    Kind.read word = .ok kind ↔ word = kind.text := by
  unfold Kind.read
  constructor
  · intro isRead
    split at isRead
    · rename_i found
      cases isRead
      have spelled : kind.text == word := by simpa using List.find?_some found
      exact (beq_iff_eq.mp spelled).symm
    · cases isRead
  · intro equal
    subst equal
    rw [Kind.parse?_text]

def shown? (key : String) (entry : Value) : Option String :=
  (entry.field? key).map Value.text

/-- The properties of a node, each under its own key. -/
structure Describes (entry : Value) (node : Node) : Prop where
  hostname : shown? "hostname" entry = some node.hostname
  address : (shown? "ip" entry).bind Address.parse? = some node.address
  kind : shown? "kind" entry = some node.kind.text

/-- An entry whose address and kind are shown as such. -/
structure Loadable (entry : Value) : Prop where
  fits : shape.Accepts entry
  address : ((shown? "ip" entry).bind Address.parse?).isSome
  kind : ∃ word ∈ ["master", "worker", "supervisor"], shown? "kind" entry = some word

theorem shown?_of_readRecord {entry : Value} {record : shape.Record}
    (isRecord : Setup.readRecord shape entry = .ok record) (key : String)
    (expected : key ∈ shape.keys := by decide) :
    shown? key entry = some (record.value key expected).text := by
  have field : (entry.field? key).bind some = some (record.value key expected) :=
    Setup.field?_of_readRecord isRecord key expected
  rw [Option.bind_fun_some] at field
  rw [shown?, field, Option.map_some]

theorem read_eq_ok_iff {entry : Value} {node : Node} :
    read entry = .ok node ↔ shape.Accepts entry ∧ Describes entry node := by
  simp only [read, Reading.bind_eq_ok_iff, Reading.pure_eq_ok_iff, Setup.readAddress_eq_ok_iff,
    Kind.read_eq_ok_iff]
  constructor
  · intro loads
    obtain ⟨record, isRecord, address, isAddress, kind, isKind, rfl⟩ := loads
    refine ⟨Setup.exists_readRecord_iff.mp ⟨record, isRecord⟩, ?_⟩
    constructor
    · exact shown?_of_readRecord isRecord "hostname"
    · simpa [shown?_of_readRecord isRecord "ip"] using isAddress
    · simpa [shown?_of_readRecord isRecord "kind"] using isKind
  · intro described
    obtain ⟨accepts, hostname, address, kind⟩ := described
    obtain ⟨record, isRecord⟩ := Setup.exists_readRecord_iff.mpr accepts
    rw [shown?_of_readRecord isRecord "hostname"] at hostname
    rw [shown?_of_readRecord isRecord "ip"] at address
    rw [shown?_of_readRecord isRecord "kind"] at kind
    refine ⟨record, isRecord, node.address, address, node.kind, Option.some.inj kind, ?_⟩
    rw [Option.some.inj hostname]

theorem exists_read_iff {entry : Value} : (∃ node, read entry = .ok node) ↔ Loadable entry := by
  constructor
  · intro loads
    obtain ⟨node, isRead⟩ := loads
    obtain ⟨fits, describes⟩ := read_eq_ok_iff.mp isRead
    refine ⟨fits, by simp [describes.address], node.kind.text, ?_, describes.kind⟩
    cases node.kind <;> simp [Kind.text]
  · intro loadable
    obtain ⟨fits, address, word, spelled, isWord⟩ := loadable
    obtain ⟨record, isRecord⟩ := Setup.exists_readRecord_iff.mpr fits
    obtain ⟨address, isAddress⟩ := Option.isSome_iff_exists.mp address
    obtain ⟨kind, rfl⟩ : ∃ kind : Kind, word = kind.text := by
      simp only [List.mem_cons, List.not_mem_nil, or_false] at spelled
      rcases spelled with rfl | rfl | rfl
      · exact ⟨.master, rfl⟩
      · exact ⟨.worker, rfl⟩
      · exact ⟨.supervisor, rfl⟩
    exact ⟨⟨_, address, kind⟩, read_eq_ok_iff.mpr
      ⟨fits, shown?_of_readRecord isRecord "hostname", isAddress, isWord⟩⟩

/-- A supervisor is a node whose entry says so. -/
theorem Describes.isSupervisor_eq {entry : Value} {node : Node} (describes : Describes entry node) :
    node.isSupervisor = (shown? "kind" entry == some "supervisor") := by
  rw [describes.kind, isSupervisor]
  cases node.kind <;> decide

end Node

end ClusterConfig
