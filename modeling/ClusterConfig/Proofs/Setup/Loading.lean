import ClusterConfig.Proofs.Dictionary
import ClusterConfig.Proofs.Setup.Blocks

set_option autoImplicit false

/-!
# Loading

Which documents are setups, and which setup each of them describes. Both are said of the document alone:
what stands under which key, and what its texts spell.
-/

namespace ClusterConfig

open Yaml

namespace Yaml.Value

def fieldItems? (key : String) (value : Value) : Option (List Value) :=
  (value.field? key).bind items?

def fieldEntries? (key : String) (value : Value) : Option Entries :=
  (value.field? key).bind entries?

end Yaml.Value

namespace Setup

/-- The address of the last host whose key is shown as the name. -/
def lastAddress? (hosts : Entries) (name : String) : Option Address :=
  (hosts.reverse.find? fun host => host.1.text == name).bind fun host => Address.parse? host.2.text

/-- What it takes for a document to be a setup. -/
structure Loadable (document : Value) : Prop where
  root : shape.Accepts document
  cluster : ∃ block, document.field? "cluster" = some block ∧ Cluster.shape.Accepts block
  addressing : ∃ block, document.field? "addresses" = some block ∧ Addressing.Loadable block
  nameServers : ∃ servers, document.fieldItems? "dns-upstreams" = some servers ∧
    ∀ server ∈ servers, (Address.parse? server.text).isSome
  dnsBootstrap : ∃ hosts, document.fieldEntries? "dns-bootstrap" = some hosts ∧
    ∀ host ∈ hosts, (Address.parse? host.2.text).isSome
  rootAdmins : ∃ admins, document.fieldItems? "root-admins" = some admins ∧
    ∀ admin ∈ admins, admin.string?.isSome
  nodes : ∃ entries, document.fieldItems? "nodes" = some entries ∧
    (∀ entry ∈ entries, Node.Loadable entry) ∧
    entries.countP (fun entry => Node.shown? "kind" entry == some "supervisor") ≤ 1

/-- What a document says about a setup, each part under its own key and each list in its order. -/
structure Describes (document : Value) (setup : Setup) : Prop where
  cluster : ∃ block, document.field? "cluster" = some block ∧ Cluster.Describes block setup.cluster
  addressing : ∃ block, document.field? "addresses" = some block ∧
    Addressing.Describes block setup.addressing
  nameServers : ∃ servers, document.fieldItems? "dns-upstreams" = some servers ∧
    List.Forall₂ (fun server address => Address.parse? server.text = some address)
      servers setup.nameServers
  dnsBootstrap : ∃ hosts, document.fieldEntries? "dns-bootstrap" = some hosts ∧
    ∀ name, setup.dnsBootstrap.get? name = lastAddress? hosts name
  rootAdmins : ∃ admins, document.fieldItems? "root-admins" = some admins ∧
    List.Forall₂ (fun admin name => admin.string? = some name) admins setup.rootAdmins
  nodes : ∃ entries, document.fieldItems? "nodes" = some entries ∧
    List.Forall₂ Node.Describes entries setup.nodes

theorem readNameServers_eq_ok_iff {block : Value} {addresses : List Address} :
    readNameServers block = .ok addresses ↔ ∃ servers, block.items? = some servers ∧
      List.Forall₂ (fun server address => Address.parse? server.text = some address)
        servers addresses := by
  simp only [readNameServers, Reading.bind_eq_ok_iff, Reading.mapError_eq_ok_iff,
    Shape.items_eq_ok_iff, Reading.mapM_eq_ok_iff, readAddress_eq_ok_iff]

theorem readAdmins_eq_ok_iff {block : Value} {names : List String} :
    readAdmins block = .ok names ↔ ∃ admins, block.items? = some admins ∧
      List.Forall₂ (fun admin name => admin.string? = some name) admins names := by
  rw [readAdmins, Reading.mapError_eq_ok_iff, Shape.strings_eq_ok_iff]

theorem readNodes_eq_ok_iff {block : Value} {nodes : List Node} :
    readNodes block = .ok nodes ↔ ∃ entries, block.items? = some entries ∧
      List.Forall₂ (fun entry node => Node.shape.Accepts entry ∧ Node.Describes entry node)
        entries nodes := by
  simp only [readNodes, Reading.bind_eq_ok_iff, Reading.mapError_eq_ok_iff,
    Shape.items_eq_ok_iff, Reading.mapM_eq_ok_iff, Node.read_eq_ok_iff]

theorem readHost_eq_ok_iff {host : Value × Value} {pair : String × Address} :
    readHost host = .ok pair ↔ host.1.text = pair.1 ∧ Address.parse? host.2.text = some pair.2 := by
  obtain ⟨name, address⟩ := pair
  simp only [readHost, Reading.bind_eq_ok_iff, Reading.pure_eq_ok_iff, readAddress_eq_ok_iff,
    Prod.mk.injEq]
  constructor
  · intro facts
    obtain ⟨_, isAddress, rfl, rfl⟩ := facts
    exact ⟨rfl, isAddress⟩
  · intro both
    obtain ⟨rfl, isAddress⟩ := both
    exact ⟨_, isAddress, rfl, rfl⟩

private theorem lookup_of_hosts {hosts : Entries} {pairs : List (String × Address)}
    (read : List.Forall₂ (fun host pair => readHost host = .ok pair) hosts pairs) (name : String) :
    pairs.lookup name = (hosts.find? fun host => host.1.text == name).bind fun host =>
      Address.parse? host.2.text := by
  induction read with
  | nil => rfl
  | @cons host pair hosts pairs first later ih =>
      obtain ⟨isName, isAddress⟩ := readHost_eq_ok_iff.mp first
      rw [List.find?_cons, List.lookup_cons, isName, Bool.beq_comm]
      cases same : pair.1 == name with
      | true => simpa using isAddress.symm
      | false => exact ih

private theorem get?_of_hosts {hosts : Entries} {pairs : List (String × Address)}
    (read : List.Forall₂ (fun host pair => readHost host = .ok pair) hosts pairs) (name : String) :
    (Dictionary.ofList pairs).get? name = lastAddress? hosts name := by
  rw [Dictionary.get?_ofList, lookup_of_hosts (List.forall₂_reverse_iff.mpr read)]
  rfl

private theorem exists_hosts {hosts : Entries}
    (addresses : ∀ host ∈ hosts, (Address.parse? host.2.text).isSome) :
    ∃ pairs, List.Forall₂ (fun host pair => readHost host = .ok pair) hosts pairs := by
  refine Reading.exists_forall₂_iff.mpr fun host member => ?_
  obtain ⟨address, isAddress⟩ := Option.isSome_iff_exists.mp (addresses host member)
  exact ⟨(host.1.text, address), readHost_eq_ok_iff.mpr ⟨rfl, isAddress⟩⟩

/-- A table of hosts is read if all its values are addresses; the last host of a name counts. -/
theorem readBootstrap_eq_ok_iff {block : Value} {bootstrap : Dictionary Address} :
    readBootstrap block = .ok bootstrap ↔ ∃ hosts, block.entries? = some hosts ∧
      (∀ host ∈ hosts, (Address.parse? host.2.text).isSome) ∧
      ∀ name, bootstrap.get? name = lastAddress? hosts name := by
  simp only [readBootstrap, Reading.bind_eq_ok_iff, Reading.mapError_eq_ok_iff,
    Shape.entries_eq_ok_iff, Reading.mapM_eq_ok_iff, Reading.pure_eq_ok_iff]
  refine exists_congr fun hosts => and_congr_right fun _ => ?_
  constructor
  · intro facts
    obtain ⟨pairs, read, same⟩ := facts
    refine ⟨fun host member => ?_, same ▸ get?_of_hosts read⟩
    obtain ⟨pair, isPair⟩ := Reading.exists_forall₂_iff.mp ⟨pairs, read⟩ host member
    exact Option.isSome_iff_exists.mpr ⟨_, (readHost_eq_ok_iff.mp isPair).2⟩
  · intro both
    obtain ⟨addresses, contents⟩ := both
    obtain ⟨pairs, read⟩ := exists_hosts addresses
    exact ⟨pairs, read, Dictionary.ext_get? fun name =>
      (get?_of_hosts read name).trans (contents name).symm⟩

theorem singleSupervisor_eq_ok {nodes : List Node} (single : nodes.countP Node.isSupervisor ≤ 1) :
    singleSupervisor nodes = .ok ⟨single⟩ := by
  rw [singleSupervisor, dif_pos single]

/-- What is read as a block of a document is what stands under its key. -/
theorem field?_of_root {document : Value} {root : shape.Record}
    (isRoot : readRecord shape document = .ok root) (key : String) (expected : key ∈ shape.keys) :
    document.field? key = some (root.value key expected) := by
  rw [← field?_of_readRecord isRoot key expected]
  exact (Option.bind_fun_some _).symm

/-- A document is read block by block, each block under its own key. -/
theorem read_eq_ok_iff {document : Value} {setup : Setup} :
    read document = .ok setup ↔ shape.Accepts document ∧
      (∃ block, document.field? "cluster" = some block ∧ Cluster.read block = .ok setup.cluster) ∧
      (∃ block, document.field? "addresses" = some block ∧
        Addressing.read block = .ok setup.addressing) ∧
      (∃ block, document.field? "dns-upstreams" = some block ∧
        readNameServers block = .ok setup.nameServers) ∧
      (∃ block, document.field? "dns-bootstrap" = some block ∧
        readBootstrap block = .ok setup.dnsBootstrap) ∧
      (∃ block, document.field? "root-admins" = some block ∧
        readAdmins block = .ok setup.rootAdmins) ∧
      (∃ block, document.field? "nodes" = some block ∧ readNodes block = .ok setup.nodes) := by
  constructor
  · intro isRead
    simp only [read, Reading.bind_eq_ok_iff, Reading.pure_eq_ok_iff] at isRead
    obtain ⟨root, isRoot, cluster, isCluster, addressing, isAddressing, servers, isServers, bootstrap,
      isBootstrap, admins, isAdmins, nodes, isNodes, ⟨_⟩, _, rfl⟩ := isRead
    exact ⟨exists_readRecord_iff.mp ⟨root, isRoot⟩, ⟨_, field?_of_root isRoot _ _, isCluster⟩,
      ⟨_, field?_of_root isRoot _ _, isAddressing⟩, ⟨_, field?_of_root isRoot _ _, isServers⟩,
      ⟨_, field?_of_root isRoot _ _, isBootstrap⟩, ⟨_, field?_of_root isRoot _ _, isAdmins⟩,
      ⟨_, field?_of_root isRoot _ _, isNodes⟩⟩
  · intro described
    obtain ⟨accepts, ⟨_, inCluster, isCluster⟩, ⟨_, inAddresses, isAddressing⟩,
      ⟨_, inServers, isServers⟩, ⟨_, inBootstrap, isBootstrap⟩, ⟨_, inAdmins, isAdmins⟩,
      ⟨_, inNodes, isNodes⟩⟩ := described
    obtain ⟨root, isRoot⟩ := exists_readRecord_iff.mpr accepts
    cases (field?_of_root isRoot _ (by decide)).symm.trans inCluster
    cases (field?_of_root isRoot _ (by decide)).symm.trans inAddresses
    cases (field?_of_root isRoot _ (by decide)).symm.trans inServers
    cases (field?_of_root isRoot _ (by decide)).symm.trans inBootstrap
    cases (field?_of_root isRoot _ (by decide)).symm.trans inAdmins
    cases (field?_of_root isRoot _ (by decide)).symm.trans inNodes
    simp only [read, Reading.bind_eq_ok_iff, Reading.pure_eq_ok_iff]
    exact ⟨root, isRoot, _, isCluster, _, isAddressing, _, isServers, _, isBootstrap, _, isAdmins,
      _, isNodes, _, singleSupervisor_eq_ok setup.supervisors_le, rfl⟩

private theorem exists_field_iff {key : String} {document : Value} {γ : Type}
    {part? : Value → Option γ} {holds : γ → Prop} :
    (∃ block, document.field? key = some block ∧ ∃ part, part? block = some part ∧ holds part) ↔
      ∃ part, (document.field? key).bind part? = some part ∧ holds part := by
  constructor
  · intro facts
    obtain ⟨block, isBlock, part, isPart, held⟩ := facts
    exact ⟨part, by rw [isBlock, Option.bind_some, isPart], held⟩
  · intro facts
    obtain ⟨part, isPart, held⟩ := facts
    obtain ⟨block, isBlock, isPart⟩ := Option.bind_eq_some_iff.mp isPart
    exact ⟨block, isBlock, part, isPart, held⟩

/-- The same with everything that is asked of the blocks spelled out. -/
private theorem read_eq_ok_iff_parts {document : Value} {setup : Setup} :
    read document = .ok setup ↔ shape.Accepts document ∧
      (∃ block, document.field? "cluster" = some block ∧ Cluster.shape.Accepts block ∧
        Cluster.Describes block setup.cluster) ∧
      (∃ block, document.field? "addresses" = some block ∧ Addressing.shape.Accepts block ∧
        Addressing.Describes block setup.addressing) ∧
      (∃ servers, document.fieldItems? "dns-upstreams" = some servers ∧
        List.Forall₂ (fun server address => Address.parse? server.text = some address)
          servers setup.nameServers) ∧
      (∃ hosts, document.fieldEntries? "dns-bootstrap" = some hosts ∧
        (∀ host ∈ hosts, (Address.parse? host.2.text).isSome) ∧
        ∀ name, setup.dnsBootstrap.get? name = lastAddress? hosts name) ∧
      (∃ admins, document.fieldItems? "root-admins" = some admins ∧
        List.Forall₂ (fun admin name => admin.string? = some name) admins setup.rootAdmins) ∧
      ∃ entries, document.fieldItems? "nodes" = some entries ∧
        List.Forall₂ (fun entry node => Node.shape.Accepts entry ∧ Node.Describes entry node)
          entries setup.nodes := by
  simp only [read_eq_ok_iff, Cluster.read_eq_ok_iff, Addressing.read_eq_ok_iff,
    readNameServers_eq_ok_iff, readBootstrap_eq_ok_iff, readAdmins_eq_ok_iff, readNodes_eq_ok_iff,
    exists_field_iff, Value.fieldItems?, Value.fieldEntries?]

theorem countP_supervisors {entries : List Value} {nodes : List Node}
    (described : List.Forall₂ Node.Describes entries nodes) :
    entries.countP (fun entry => Node.shown? "kind" entry == some "supervisor") =
      nodes.countP Node.isSupervisor := by
  induction described with
  | nil => rfl
  | cons first later ih => rw [List.countP_cons, List.countP_cons, ih, first.isSupervisor_eq]

theorem loadable_of_read {document : Value} {setup : Setup}
    (isRead : read document = .ok setup) : Loadable document ∧ Describes document setup := by
  obtain ⟨root, ⟨cluster, inCluster, accepts, names⟩, ⟨addresses, inAddresses, fits, networks⟩,
    ⟨servers, inServers, areServers⟩, ⟨hosts, inHosts, areHosts, bootstrap⟩,
    ⟨admins, inAdmins, areAdmins⟩, entries, inNodes, areNodes⟩ := read_eq_ok_iff_parts.mp isRead
  have described := areNodes.imp fun _ _ both => both.2
  constructor
  · refine ⟨root, ⟨cluster, inCluster, accepts⟩, ⟨addresses, inAddresses, ?_⟩,
      ⟨servers, inServers, ?_⟩, ⟨hosts, inHosts, areHosts⟩, ⟨admins, inAdmins, ?_⟩,
      ⟨entries, inNodes, ?_, ?_⟩⟩
    · exact Addressing.exists_read_iff.mp ⟨_, Addressing.read_eq_ok_iff.mpr ⟨fits, networks⟩⟩
    · intro server member
      exact Option.isSome_iff_exists.mpr (Reading.exists_forall₂_iff.mp ⟨_, areServers⟩ server member)
    · intro admin member
      exact Option.isSome_iff_exists.mpr (Reading.exists_forall₂_iff.mp ⟨_, areAdmins⟩ admin member)
    · intro entry member
      obtain ⟨node, both⟩ := Reading.exists_forall₂_iff.mp ⟨_, areNodes⟩ entry member
      exact Node.exists_read_iff.mp ⟨node, Node.read_eq_ok_iff.mpr both⟩
    · rw [countP_supervisors described]
      exact setup.supervisors_le
  · exact ⟨⟨cluster, inCluster, names⟩, ⟨addresses, inAddresses, networks⟩,
      ⟨servers, inServers, areServers⟩, ⟨hosts, inHosts, bootstrap⟩, ⟨admins, inAdmins, areAdmins⟩,
      ⟨entries, inNodes, described⟩⟩

/-- A document that can be loaded is read. -/
theorem exists_read_iff {document : Value} :
    (∃ setup, read document = .ok setup) ↔ Loadable document := by
  constructor
  · intro loads
    obtain ⟨setup, isRead⟩ := loads
    exact (loadable_of_read isRead).1
  · intro loadable
    obtain ⟨root, ⟨cluster, inCluster, accepts⟩, ⟨addresses, inAddresses, networks⟩,
      ⟨servers, inServers, areServers⟩, ⟨hosts, inHosts, areHosts⟩, ⟨admins, inAdmins, areAdmins⟩,
      entries, inNodes, areNodes, single⟩ := loadable
    obtain ⟨names, isCluster⟩ : ∃ names, Cluster.read cluster = .ok names := by
      obtain ⟨record, isRecord⟩ := exists_readRecord_iff.mpr accepts
      exact ⟨_, by rw [Cluster.read, isRecord]; rfl⟩
    obtain ⟨addressing, isAddressing⟩ := Addressing.exists_read_iff.mpr networks
    obtain ⟨nameServers, nameServersRead⟩ := Reading.exists_forall₂_iff.mpr fun server member =>
      Option.isSome_iff_exists.mp (areServers server member)
    obtain ⟨pairs, pairsRead⟩ := exists_hosts areHosts
    obtain ⟨rootAdmins, rootAdminsRead⟩ := Reading.exists_forall₂_iff.mpr fun admin member =>
      Option.isSome_iff_exists.mp (areAdmins admin member)
    obtain ⟨nodes, nodesRead⟩ := Reading.exists_forall₂_iff.mpr fun entry member =>
      Node.exists_read_iff.mpr (areNodes entry member)
    have described := nodesRead.imp fun _ _ => Node.read_eq_ok_iff.mp
    have supervisors_le : nodes.countP Node.isSupervisor ≤ 1 := by
      rw [← countP_supervisors (described.imp fun _ _ both => both.2)]
      exact single
    let setup : Setup := {
      cluster := names
      addressing
      nameServers
      dnsBootstrap := .ofList pairs
      rootAdmins
      nodes
      supervisors_le }
    refine ⟨setup, read_eq_ok_iff_parts.mpr ⟨root, ?_, ?_, ?_, ?_, ?_, ?_⟩⟩
    · exact ⟨cluster, inCluster, Cluster.read_eq_ok_iff.mp isCluster⟩
    · exact ⟨addresses, inAddresses, Addressing.read_eq_ok_iff.mp isAddressing⟩
    · exact ⟨servers, inServers, nameServersRead⟩
    · exact ⟨hosts, inHosts, areHosts, get?_of_hosts pairsRead⟩
    · exact ⟨admins, inAdmins, rootAdminsRead⟩
    · exact ⟨entries, inNodes, described⟩

private theorem read_of_describes {document : Value} {setup : Setup} (loadable : Loadable document)
    (describes : Describes document setup) : read document = .ok setup := by
  obtain ⟨root, ⟨cluster, inCluster, accepts⟩, ⟨addresses, inAddresses, networks⟩, _,
    ⟨hosts, inHosts, areHosts⟩, _, ⟨entries, inNodes, areNodes, _⟩⟩ := loadable
  obtain ⟨⟨_, inCluster', names⟩, ⟨_, inAddresses', addressing⟩, servers, ⟨_, inHosts', bootstrap⟩,
    admins, ⟨_, inNodes', nodes⟩⟩ := describes
  cases inCluster.symm.trans inCluster'
  cases inAddresses.symm.trans inAddresses'
  cases inHosts.symm.trans inHosts'
  cases inNodes.symm.trans inNodes'
  have fits : ∀ entry ∈ entries, Node.shape.Accepts entry := fun entry member =>
    (areNodes entry member).fits
  exact read_eq_ok_iff_parts.mpr ⟨root, ⟨cluster, inCluster, accepts, names⟩,
    ⟨addresses, inAddresses, networks.fits, addressing⟩, servers,
    ⟨hosts, inHosts, areHosts, bootstrap⟩, admins,
    ⟨entries, inNodes, (List.forall₂_and_left _ _).mpr ⟨fits, nodes⟩⟩⟩

/-- **Loading.** A document is read exactly if it can be loaded, and as exactly that setup which it
describes. -/
theorem read_exactly_described (document : Value) :
    ((∃ setup, read document = .ok setup) ↔ Loadable document) ∧
      ∀ setup, read document = .ok setup ↔ Loadable document ∧ Describes document setup := by
  refine ⟨exists_read_iff, fun setup => ⟨loadable_of_read, ?_⟩⟩
  intro both
  obtain ⟨loadable, describes⟩ := both
  exact read_of_describes loadable describes

private def texts (fields : List (String × String)) : Value :=
  .mapping (fields.map fun field => (.string field.1, .string field.2))

/-- The entries of a small document with the given name servers and nodes. -/
def sampleEntries (servers nodes : List Value) : Entries := [
  (.string "cluster", texts [("external-domain", "example.org"), ("internal-domain", "example.lan"),
    ("etcd-token", "token"), ("kerberos-realm", "EXAMPLE.ORG"), ("mirror", "mirror.example.org"),
    ("user-grant-domain", "grant.example.org"), ("user-grant-email-domain", "mail.example.org")]),
  (.string "addresses", texts [("cidr-nodes", "10.0.0.0/24"), ("cidr-pods", "172.18.0.0/16"),
    ("cidr-services", "172.28.0.0/16"), ("service-api", "172.28.0.1"), ("service-dns", "172.28.0.2")]),
  (.string "dns-upstreams", .sequence servers),
  (.string "dns-bootstrap", texts [("mirror", "10.0.0.9"), ("store", "10.0.0.10")]),
  (.string "root-admins", .sequence [.string "admin"]),
  (.string "nodes", .sequence nodes)]

def sample (servers nodes : List Value) : Value := .mapping (sampleEntries servers nodes)

/-- The entry of a node in such a document. -/
def sampleEntry (hostname address kind : String) : Value :=
  texts [("hostname", hostname), ("ip", address), ("kind", kind)]

end Setup

end ClusterConfig
