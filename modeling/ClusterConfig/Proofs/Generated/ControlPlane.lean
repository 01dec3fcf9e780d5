import ClusterConfig.Generated.ClusterConf
import ClusterConfig.Generated.KubeSpec
import ClusterConfig.Generated.Kubeconfig
import ClusterConfig.Generated.Prometheus
import ClusterConfig.Proofs.Net.Written
import ClusterConfig.Proofs.Setup.Loading

set_option autoImplicit false

/-!
# One control plane

Every generated file chooses the nodes of the control plane for itself: some take the first of them, some
list all of them, and one counts them. They agree for every setup, and they fail together where there is
no such node.
-/

namespace ClusterConfig.Setup

variable {setup : Setup} {first : Node} {others : List Node}

theorem defaultMaster_of_nil (absent : setup.masters = []) :
    setup.defaultMaster = .error .noMaster := by
  have notFound : setup.nodes.find? (fun node => node.kind = .master) = none := by
    rw [← List.head?_filter]
    exact congrArg List.head? absent
  rw [defaultMaster, anyNode, notFound]
  rfl

theorem defaultMaster_of_cons (present : setup.masters = first :: others) :
    setup.defaultMaster = .ok first := by
  have found : setup.nodes.find? (fun node => node.kind = .master) = some first := by
    rw [← List.head?_filter]
    exact congrArg List.head? present
  rw [defaultMaster, anyNode, found]
  rfl

theorem defaultEndpoint_of_cons (present : setup.masters = first :: others) :
    setup.defaultEndpoint = .ok (first.address.endpoint .api) := by
  rw [defaultEndpoint, defaultMaster_of_cons present]
  rfl

theorem clusterConf_of_endpoint {endpoint : String} (isEndpoint : setup.defaultEndpoint = .ok endpoint) :
    setup.clusterConf = .ok ⟨clusterConfHeader, .ofList (setup.clusterConfEntries endpoint)⟩ := by
  rw [clusterConf, isEndpoint]
  rfl

theorem pieces_storeEndpoints (present : setup.masters ≠ []) :
    (Text.pieces ',' setup.storeEndpoints.toList).map String.ofList =
      setup.masters.map fun node => node.address.endpoint .storeClients := by
  refine Text.pieces_join (by simpa using present) fun text member => ?_
  obtain ⟨node, _, rfl⟩ := List.mem_map.mp member
  exact Address.not_mem_endpoint (by decide) (by decide)

/-- There is no control plane, and every file that speaks of one is refused. -/
structure LacksControlPlane (setup : Setup) : Prop where
  defaultEndpoint : setup.defaultEndpoint = .error .noMaster
  clusterConf : setup.clusterConf = .error .noMaster
  kubeconfigVariables : ∀ project, setup.kubeconfigVariables project = .error .noMaster
  prometheusVariables : setup.prometheusVariables = .error .noMaster
  kubeSpecVariables : ∀ extra, setup.kubeSpecVariables extra = .error .noMaster
  storeEndpoints : setup.storeEndpoints = ""

/-- Every file speaks of the same control plane: of `first` to clients, and of `first` and the `others`
in this order where all are listed. -/
structure ShowsControlPlane (setup : Setup) (first : Node) (others : List Node) : Prop where
  defaultEndpoint : setup.defaultEndpoint = .ok ("https://" ++ first.address.text ++ ":443")
  clusterConf : ∃ file, setup.clusterConf = .ok file ∧
    file.entries.get? "APISERVER" = some ("https://" ++ first.address.text ++ ":443") ∧
    file.entries.get? "APISERVER_COUNT" = some (first :: others).length.repr ∧
    file.entries.get? "ETCD_ENDPOINTS" = some setup.storeEndpoints ∧
    file.entries.get? "ETCD_CLUSTER" = some (Text.join "," ((first :: others).map fun node =>
      node.hostname ++ "=" ++ ("https://" ++ node.address.text ++ ":2380")))
  storeEndpoints : (Text.pieces ',' setup.storeEndpoints.toList).map String.ofList =
    (first :: others).map fun node => "https://" ++ node.address.text ++ ":2379"
  kubeconfigVariables : ∀ project, ∃ values, setup.kubeconfigVariables project = .ok values ∧
    values.get? "APISERVER" = some ("https://" ++ first.address.text ++ ":443")
  prometheusVariables : ∃ values, setup.prometheusVariables = .ok values ∧
    values.get? "APISERVER" = some first.address.text ∧
    values.get? "ETCD-TARGETS" = some ("[" ++ Text.join "," ((first :: others).map fun node =>
      "'" ++ (node.hostname ++ "." ++ setup.cluster.externalDomain ++ ":9101") ++ "'") ++ "]")
  kubeSpecVariables : ∃ values, setup.kubeSpecBase = .ok values ∧
    values.get? "SOME_APISERVER" = some first.address.text ∧
    ∀ extra, setup.kubeSpecVariables extra = .ok (values.override extra)

theorem lacksControlPlane (absent : setup.masters = []) : LacksControlPlane setup := by
  have noMaster := defaultMaster_of_nil absent
  have noEndpoint : setup.defaultEndpoint = .error .noMaster := by
    rw [defaultEndpoint, noMaster]
    rfl
  constructor
  · exact noEndpoint
  · rw [clusterConf, noEndpoint]
    rfl
  · intro project
    rw [kubeconfigVariables, noEndpoint]
    rfl
  · rw [prometheusVariables, noMaster]
    rfl
  · intro extra
    rw [kubeSpecVariables, kubeSpecBase, noMaster]
    rfl
  · rw [storeEndpoints, absent]
    rfl

theorem storeMembers_eq (setup : Setup) :
    setup.storeMembers = Text.join "," (setup.masters.map fun node =>
      node.hostname ++ "=" ++ ("https://" ++ node.address.text ++ ":2380")) := by
  refine congrArg (Text.join ",") (List.map_congr_left fun node _ => ?_)
  rw [Address.endpoint_eq]
  rfl

theorem targets_eq (nodes : List Node) (service : Service) :
    setup.targets nodes service = "[" ++ Text.join "," (nodes.map fun node =>
      "'" ++ (node.hostname ++ "." ++ setup.cluster.externalDomain ++
        (":" ++ service.number.repr)) ++ "'") ++ "]" := by
  simp only [targets, quotedList, qualify, List.map_map, Function.comp_def, String.append_assoc]

theorem showsControlPlane (present : setup.masters = first :: others) :
    ShowsControlPlane setup first others := by
  have isDefault := defaultMaster_of_cons present
  have isEndpoint : setup.defaultEndpoint = .ok ("https://" ++ first.address.text ++ ":443") := by
    rw [defaultEndpoint_of_cons present, Address.endpoint_eq]
    rfl
  constructor
  · exact isEndpoint
  · refine ⟨_, clusterConf_of_endpoint isEndpoint, ?_, ?_, ?_, ?_⟩
    · simp [Dictionary.get?_ofList, clusterConfEntries, List.lookup_cons]
    · simp [Dictionary.get?_ofList, clusterConfEntries, List.lookup_cons, present]
    · simp [Dictionary.get?_ofList, clusterConfEntries, List.lookup_cons]
    · rw [← present, ← storeMembers_eq]
      simp [Dictionary.get?_ofList, clusterConfEntries, List.lookup_cons]
  · rw [pieces_storeEndpoints (by simp [present]), present]
    refine List.map_congr_left fun node _ => ?_
    rw [Address.endpoint_eq]
    rfl
  · intro project
    rw [kubeconfigVariables, isEndpoint]
    refine ⟨_, rfl, ?_⟩
    simp [Dictionary.get?_ofList, List.lookup_cons]
  · rw [prometheusVariables, isDefault]
    refine ⟨_, rfl, ?_, ?_⟩
    · simp [Dictionary.get?_ofList, List.lookup_cons]
    · rw [← present]
      refine Eq.trans ?_ (congrArg some (targets_eq setup.masters .storeMetrics))
      simp [Dictionary.get?_ofList]
  · rw [kubeSpecBase, isDefault]
    refine ⟨_, rfl, ?_, fun extra => ?_⟩
    · simp [Dictionary.get?_ofList]
    · rw [kubeSpecVariables, kubeSpecBase, isDefault]
      rfl

/-- **One control plane.** If no node of a setup is of the control plane, every file that speaks of it is
refused for this reason. Otherwise all of them are made, and they speak of the same nodes in the same
order. -/
theorem controlPlane_agrees (setup : Setup) :
    ((setup.nodes.filter fun node => node.kind = .master) = [] → LacksControlPlane setup) ∧
      ∀ first others, (setup.nodes.filter fun node => node.kind = .master) = first :: others →
        ShowsControlPlane setup first others :=
  ⟨lacksControlPlane, fun _ _ => showsControlPlane⟩

theorem controlPlane_agrees_sample :
    (∃ setup, read (sample [] []) = .ok setup ∧ LacksControlPlane setup) ∧
      ∃ setup first second, read (sample [] [sampleEntry "a" "10.0.0.1" "master",
        sampleEntry "w" "10.0.0.2" "worker", sampleEntry "b" "10.0.0.3" "master"]) = .ok setup ∧
        ShowsControlPlane setup first [second] := by
  constructor
  · obtain ⟨setup, isRead, absent⟩ := Reading.exists_ok_of_any
      (show (read (sample [] [])).toOption.any (fun setup => setup.masters.isEmpty) = true by
        decide +kernel)
    exact ⟨setup, isRead, (controlPlane_agrees setup).1 (List.isEmpty_iff.mp absent)⟩
  · obtain ⟨setup, isRead, served⟩ := Reading.exists_ok_of_any
      (show (read (sample [] [sampleEntry "a" "10.0.0.1" "master",
        sampleEntry "w" "10.0.0.2" "worker", sampleEntry "b" "10.0.0.3" "master"])).toOption.any
          (fun setup => setup.masters.length == 2) = true by
        decide +kernel)
    obtain ⟨first, second, present⟩ := List.length_eq_two.mp (beq_iff_eq.mp served)
    exact ⟨setup, first, second, isRead, (controlPlane_agrees setup).2 first [second] present⟩

end ClusterConfig.Setup
