import ClusterConfig.Proofs.Dictionary
import ClusterConfig.Proofs.Generated.ControlPlane
import ClusterConfig.Proofs.Generated.EnvFile

set_option autoImplicit false

/-!
# What can be read back from the cluster's environment file

The strings of a setup are written into the file as they are. A line feed in one of them ends the line of
its setting, and is the only thing by which a setup can spoil the file.
-/

namespace ClusterConfig.Setup

variable {setup : Setup} {endpoint : String}

def clusterConfKeys : List String :=
  ["APISERVER", "APISERVER_COUNT", "CLUSTER_CIDR", "CLUSTER_DOMAIN", "DOMAIN", "ETCD_CLUSTER",
    "ETCD_ENDPOINTS", "ETCD_TOKEN", "SERVICE_API", "SERVICE_CIDR", "SERVICE_DNS"]

/-- The strings of a setup that stand in the file. -/
def clusterConfStrings (setup : Setup) : List String :=
  setup.cluster.externalDomain :: setup.cluster.internalDomain :: setup.cluster.etcdToken ::
    setup.masters.map Node.hostname

theorem map_fst_clusterConfEntries (setup : Setup) (endpoint : String) :
    (setup.clusterConfEntries endpoint).map Prod.fst = clusterConfKeys :=
  rfl

theorem entries_clusterConf (setup : Setup) (endpoint : String) :
    (Dictionary.ofList (setup.clusterConfEntries endpoint)).entries =
      setup.clusterConfEntries endpoint := by
  have sorted : clusterConfKeys.Pairwise (· < ·) := by decide
  rw [← map_fst_clusterConfEntries setup endpoint] at sorted
  exact Dictionary.entries_ofList (List.pairwise_map.mp sorted)

theorem plain_clusterConfKeys : ∀ key ∈ clusterConfKeys, '=' ∉ key.toList ∧ '\n' ∉ key.toList := by
  decide

theorem lineFeed_not_mem_storeEndpoints (setup : Setup) : '\n' ∉ setup.storeEndpoints.toList := by
  intro member
  obtain ⟨text, written, inText⟩ := (Text.mem_join_iff (by decide)).mp member
  obtain ⟨node, _, rfl⟩ := List.mem_map.mp written
  exact Address.not_mem_endpoint (by decide) (by decide) inText

theorem lineFeed_mem_storeMembers_iff :
    '\n' ∈ setup.storeMembers.toList ↔ ∃ node ∈ setup.masters, '\n' ∈ node.hostname.toList := by
  rw [storeMembers, Text.mem_join_iff (by decide)]
  have ofEndpoint (node : Node) : '\n' ∉ (node.address.endpoint .storePeers).toList :=
    Address.not_mem_endpoint (by decide) (by decide)
  simp [ofEndpoint]

/-- Only the strings of a setup bring line feeds into the values. -/
theorem lineFeed_not_mem_values_iff (plain : '\n' ∉ endpoint.toList) :
    (∀ entry ∈ setup.clusterConfEntries endpoint, '\n' ∉ entry.2.toList) ↔
      ∀ text ∈ setup.clusterConfStrings, '\n' ∉ text.toList := by
  have ofNumber (number : Nat) : '\n' ∉ number.repr.toList := not_mem_repr (by decide)
  have ofAddress (address : Address) : '\n' ∉ address.text.toList :=
    Address.not_mem_text (by decide) (by decide)
  have ofNetwork (network : Network) : '\n' ∉ network.text.toList :=
    Network.not_mem_text (by decide) (by decide)
  simp only [clusterConfEntries, clusterConfStrings, List.forall_mem_cons, List.forall_mem_map,
    List.not_mem_nil, IsEmpty.forall_iff, implies_true, plain, ofNumber, ofAddress, ofNetwork,
    lineFeed_not_mem_storeEndpoints, lineFeed_mem_storeMembers_iff, not_false_eq_true, true_and,
    and_true, not_exists, not_and]
  tauto

theorem readsBack_iff_of_endpoint (plain : '\n' ∉ endpoint.toList) :
    (EnvFile.mk clusterConfHeader (.ofList (setup.clusterConfEntries endpoint))).ReadsBack ↔
      ∀ text ∈ setup.clusterConfStrings, '\n' ∉ text.toList := by
  rw [EnvFile.readsBack_iff, entries_clusterConf, ← lineFeed_not_mem_values_iff plain]
  constructor
  · intro both entry member
    exact (both.2 entry member).2.2
  · intro values
    have inHeader : '\n' ∉ clusterConfHeader.toList := by decide
    refine ⟨inHeader, fun entry member => ?_⟩
    have isKey : entry.1 ∈ clusterConfKeys := List.mem_map.mpr ⟨entry, member, rfl⟩
    obtain ⟨noEquals, noLineFeed⟩ := plain_clusterConfKeys entry.1 isKey
    exact ⟨noEquals, noLineFeed, values entry member⟩

theorem clusterConfText_of_ok {file : EnvFile} (isFile : setup.clusterConf = .ok file) :
    setup.clusterConfText = .ok file.text := by
  rw [clusterConfText, isFile]
  rfl

/-- **Reading the file back.** Every setup with a node of the control plane has a file, always with the same
keys. It is found again in its text exactly if no string of the setup that stands in it holds a line feed. -/
theorem clusterConf_readsBack_iff (setup : Setup)
    (present : ∃ node ∈ setup.nodes, node.kind = .master) :
    ∃ file, setup.clusterConf = .ok file ∧ setup.clusterConfText = .ok file.text ∧
      file.header = clusterConfHeader ∧ file.entries.entries.map Prod.fst = clusterConfKeys ∧
      (file.ReadsBack ↔ ∀ text ∈ setup.clusterConfStrings, '\n' ∉ text.toList) := by
  obtain ⟨node, inNodes, isMaster⟩ := present
  have inMasters : node ∈ setup.masters := List.mem_filter.mpr ⟨inNodes, decide_eq_true isMaster⟩
  obtain ⟨first, others, areMasters⟩ := List.exists_cons_of_ne_nil (List.ne_nil_of_mem inMasters)
  have isFile := clusterConf_of_endpoint (defaultEndpoint_of_cons areMasters)
  refine ⟨_, isFile, clusterConfText_of_ok isFile, rfl, ?_, ?_⟩
  · rw [entries_clusterConf, map_fst_clusterConfEntries]
  · exact readsBack_iff_of_endpoint (Address.not_mem_endpoint (by decide) (by decide))

theorem clusterConf_readsBack_sample :
    ∃ setup file, read (sample [] [sampleEntry "a" "10.0.0.1" "master"]) = .ok setup ∧
      setup.clusterConf = .ok file ∧ setup.clusterConfText = .ok file.text ∧ file.ReadsBack := by
  obtain ⟨setup, isRead, both⟩ := Reading.exists_ok_of_any
    (show (read (sample [] [sampleEntry "a" "10.0.0.1" "master"])).toOption.any (fun setup =>
        setup.nodes.any (fun node => node.kind = .master) &&
          setup.clusterConfStrings.all (fun text => !text.toList.contains '\n')) = true by
      decide +kernel)
  simp only [Bool.and_eq_true, List.any_eq_true, List.all_eq_true, decide_eq_true_eq] at both
  obtain ⟨present, plain⟩ := both
  obtain ⟨file, isFile, isText, _, _, readsBack⟩ := clusterConf_readsBack_iff setup present
  refine ⟨setup, file, isRead, isFile, isText, readsBack.mpr fun text member => ?_⟩
  simpa using plain text member

/-- A host name with line feeds in it adds a line that looks like a setting. -/
theorem clusterConf_not_always_readsBack :
    ∃ setup file, read (sample [] [sampleEntry "a\nSERVICE_DNS=10.9.9.9\nb" "10.0.0.1" "master"]) =
        .ok setup ∧
      setup.clusterConf = .ok file ∧ setup.clusterConfText = .ok file.text ∧ ¬ file.ReadsBack ∧
      "SERVICE_DNS=10.9.9.9" ∈ (Text.pieces '\n' file.text.toList).map String.ofList := by
  obtain ⟨setup, isRead, names⟩ := Reading.exists_ok_of_any
    (show (read (sample [] [sampleEntry "a\nSERVICE_DNS=10.9.9.9\nb" "10.0.0.1" "master"])
        ).toOption.any (fun setup =>
          setup.masters.map Node.hostname == ["a\nSERVICE_DNS=10.9.9.9\nb"]) = true by
      decide +kernel)
  obtain ⟨node, areMasters, isName⟩ := List.map_eq_singleton_iff.mp (beq_iff_eq.mp names)
  have isFile := clusterConf_of_endpoint (defaultEndpoint_of_cons areMasters)
  refine ⟨setup, _, isRead, isFile, clusterConfText_of_ok isFile, ?_, ?_⟩
  · intro foundAgain
    have plain := (readsBack_iff_of_endpoint
      (Address.not_mem_endpoint (by decide) (by decide))).mp foundAgain
    refine plain node.hostname ?_ (by rw [isName]; decide)
    simp [clusterConfStrings, areMasters]
  · have isEntry : ("ETCD_CLUSTER", setup.storeMembers) ∈
        setup.clusterConfEntries (node.address.endpoint .api) := by
      simp [clusterConfEntries]
    rw [← entries_clusterConf] at isEntry
    have isValue : setup.storeMembers = "a" ++ "\n" ++ "SERVICE_DNS=10.9.9.9" ++ "\n" ++
        ("b=" ++ node.address.endpoint .storePeers) := by
      refine String.toList_injective ?_
      simp [storeMembers, Text.toList_join, areMasters, isName]
    exact EnvFile.mem_pieces_of_value isEntry isValue (by decide)

end ClusterConfig.Setup
