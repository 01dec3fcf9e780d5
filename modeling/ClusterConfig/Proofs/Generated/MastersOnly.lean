import ClusterConfig.Proofs.Generated.ControlPlane

set_option autoImplicit false

/-!
# What the files of the control plane depend on

The files that speak of the control plane look at its own nodes, at some names and at some networks of the
cluster, and at nothing else. Two setups that agree on these have the same such files or are refused them for
the same reason, whichever other nodes stand between those of the control plane.
-/

namespace ClusterConfig.Setup

variable {left right : Setup}

/-- Setups with the same nodes of the control plane in the same order, and with the same names and networks
where these nodes are concerned. Whatever else is in a setup may differ. -/
structure AgreeOnControlPlane (left right : Setup) : Prop where
  externalDomain : left.cluster.externalDomain = right.cluster.externalDomain
  internalDomain : left.cluster.internalDomain = right.cluster.internalDomain
  etcdToken : left.cluster.etcdToken = right.cluster.etcdToken
  pods : left.addressing.pods = right.addressing.pods
  services : left.addressing.services = right.addressing.services
  api : left.addressing.api = right.addressing.api
  dns : left.addressing.dns = right.addressing.dns
  masters : (left.nodes.filter fun node => node.kind = .master) =
    right.nodes.filter fun node => node.kind = .master

/-- The files that speak of the control plane are the same for both setups, and so are the reasons for which
they are refused. -/
structure ShareControlPlaneFiles (left right : Setup) : Prop where
  clusterConf : left.clusterConf = right.clusterConf
  clusterConfText : left.clusterConfText = right.clusterConfText
  storeEndpoints : left.storeEndpoints = right.storeEndpoints
  kubeconfigVariables : ∀ project, left.kubeconfigVariables project = right.kubeconfigVariables project
  kubeconfig : ∀ project resources, left.kubeconfig project resources = right.kubeconfig project resources
  kubeSpecVariables : ∀ extra, left.kubeSpecVariables extra = right.kubeSpecVariables extra
  kubeSpec : ∀ name extra resources,
    left.kubeSpec name extra resources = right.kubeSpec name extra resources
  storeTargets : (left.prometheusVariables.map fun values => values.get? "ETCD-TARGETS") =
    right.prometheusVariables.map fun values => values.get? "ETCD-TARGETS"

namespace AgreeOnControlPlane

theorem masters_eq (agree : AgreeOnControlPlane left right) : left.masters = right.masters :=
  agree.masters

theorem defaultMaster (agree : AgreeOnControlPlane left right) :
    left.defaultMaster = right.defaultMaster := by
  have same := agree.masters_eq
  cases areMasters : right.masters with
  | nil => rw [defaultMaster_of_nil areMasters, defaultMaster_of_nil (same.trans areMasters)]
  | cons first others =>
      rw [defaultMaster_of_cons areMasters, defaultMaster_of_cons (same.trans areMasters)]

theorem defaultEndpoint (agree : AgreeOnControlPlane left right) :
    left.defaultEndpoint = right.defaultEndpoint := by
  rw [Setup.defaultEndpoint, agree.defaultMaster, ← Setup.defaultEndpoint]

theorem storeEndpoints (agree : AgreeOnControlPlane left right) :
    left.storeEndpoints = right.storeEndpoints := by
  rw [Setup.storeEndpoints, agree.masters_eq, ← Setup.storeEndpoints]

theorem storeMembers (agree : AgreeOnControlPlane left right) :
    left.storeMembers = right.storeMembers := by
  rw [Setup.storeMembers, agree.masters_eq, ← Setup.storeMembers]

theorem clusterConfEntries (agree : AgreeOnControlPlane left right) (endpoint : String) :
    left.clusterConfEntries endpoint = right.clusterConfEntries endpoint := by
  rw [Setup.clusterConfEntries, agree.masters_eq, agree.pods, agree.internalDomain, agree.externalDomain,
    agree.storeMembers, agree.storeEndpoints, agree.etcdToken, agree.api, agree.services, agree.dns,
    ← Setup.clusterConfEntries]

theorem clusterConf (agree : AgreeOnControlPlane left right) : left.clusterConf = right.clusterConf := by
  simp only [Setup.clusterConf, agree.defaultEndpoint, agree.clusterConfEntries]

theorem kubeconfigVariables (agree : AgreeOnControlPlane left right) (project : Project) :
    left.kubeconfigVariables project = right.kubeconfigVariables project := by
  rw [Setup.kubeconfigVariables, agree.defaultEndpoint, ← Setup.kubeconfigVariables]

theorem kubeSpecVariables (agree : AgreeOnControlPlane left right) (extra : Dictionary String) :
    left.kubeSpecVariables extra = right.kubeSpecVariables extra := by
  simp only [Setup.kubeSpecVariables, kubeSpecBase, agree.defaultMaster, agree.internalDomain, agree.pods,
    agree.api, agree.dns]

/-- Of the values for the monitoring, the members of the store alone are those of the control plane. -/
theorem get?_prometheusVariables (agree : AgreeOnControlPlane left right) :
    (left.prometheusVariables.map fun values => values.get? "ETCD-TARGETS") =
      right.prometheusVariables.map fun values => values.get? "ETCD-TARGETS" := by
  cases areMasters : right.masters with
  | nil =>
      rw [(lacksControlPlane areMasters).prometheusVariables,
        (lacksControlPlane (agree.masters_eq.trans areMasters)).prometheusVariables]
  | cons first others =>
      obtain ⟨values, isRight, _, inRight⟩ := (showsControlPlane areMasters).prometheusVariables
      obtain ⟨values', isLeft, _, inLeft⟩ :=
        (showsControlPlane (agree.masters_eq.trans areMasters)).prometheusVariables
      rw [isRight, isLeft]
      refine congrArg Except.ok (inLeft.trans (Eq.trans ?_ inRight.symm))
      rw [agree.externalDomain]

end AgreeOnControlPlane

/-- **Only the nodes of the control plane.** Setups that agree on the nodes of the control plane, and on the
names and networks that concern these, have the same files that speak of them. -/
theorem controlPlaneFiles_shared (agree : AgreeOnControlPlane left right) :
    ShareControlPlaneFiles left right := by
  constructor
  case clusterConf => exact agree.clusterConf
  case clusterConfText => rw [clusterConfText, agree.clusterConf, ← clusterConfText]
  case storeEndpoints => exact agree.storeEndpoints
  case kubeconfigVariables => exact agree.kubeconfigVariables
  case kubeconfig =>
    intro project resources
    rw [kubeconfig, agree.kubeconfigVariables, ← kubeconfig]
  case kubeSpecVariables => exact agree.kubeSpecVariables
  case kubeSpec =>
    intro name extra resources
    simp only [kubeSpec, agree.kubeSpecVariables]
  case storeTargets => exact agree.get?_prometheusVariables

/-- A worker between the nodes of the control plane, a supervisor before them and other name servers make no
difference. -/
theorem controlPlaneFiles_shared_sample :
    ∃ left right, read (sample [] [sampleEntry "a" "10.0.0.1" "master",
          sampleEntry "w" "10.0.0.2" "worker", sampleEntry "b" "10.0.0.3" "master"]) = .ok left ∧
      read (sample [.string "10.0.0.7"] [sampleEntry "k" "10.0.0.9" "supervisor",
          sampleEntry "a" "10.0.0.1" "master", sampleEntry "b" "10.0.0.3" "master"]) = .ok right ∧
      left.masters.length = 2 ∧ left.nodes ≠ right.nodes ∧ ShareControlPlaneFiles left right := by
  obtain ⟨left, isLeft, checked⟩ := Reading.exists_ok_of_any
    (show (read (sample [] [sampleEntry "a" "10.0.0.1" "master",
          sampleEntry "w" "10.0.0.2" "worker", sampleEntry "b" "10.0.0.3" "master"])).toOption.any (fun left =>
        (read (sample [.string "10.0.0.7"] [sampleEntry "k" "10.0.0.9" "supervisor",
          sampleEntry "a" "10.0.0.1" "master", sampleEntry "b" "10.0.0.3" "master"])).toOption.any fun right =>
            left.cluster = right.cluster ∧ left.addressing = right.addressing ∧
              left.masters = right.masters ∧ left.masters.length = 2 ∧ left.nodes ≠ right.nodes) = true by
      decide +kernel)
  obtain ⟨right, isRight, same⟩ := Reading.exists_ok_of_any checked
  obtain ⟨cluster, addressing, masters, two, differ⟩ := of_decide_eq_true same
  refine ⟨left, right, isLeft, isRight, two, differ, controlPlaneFiles_shared ?_⟩
  constructor
  case externalDomain => rw [cluster]
  case internalDomain => rw [cluster]
  case etcdToken => rw [cluster]
  case pods => rw [addressing]
  case services => rw [addressing]
  case api => rw [addressing]
  case dns => rw [addressing]
  case masters => exact masters

end ClusterConfig.Setup
