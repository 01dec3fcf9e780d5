import ClusterConfig.Proofs.Generated.ControlPlane
import ClusterConfig.Proofs.Setup.FirstFault

set_option autoImplicit false

/-!
# The key server

The supervisor among the nodes holds the key server. It is looked for in one pass over the nodes that keeps
the first supervisor and refuses a second one, and several parts of the program ask for it again in their
own ways. All of them agree.
-/

namespace ClusterConfig.Setup

open Yaml

variable {setup : Setup} {document : Value} {nodes seen rest before after : List Node} {node : Node}
  {kept : Option Node} {entries : List Value}

/-!
## The pass over the nodes
-/

def scanSupervisors : Option Node → List Node → Except Fault (Option Node)
  | kept, [] => .ok kept
  | kept, node :: rest =>
      if node.isSupervisor then
        if kept.isSome then .error .severalSupervisors else scanSupervisors (some node) rest
      else scanSupervisors kept rest

/-- What is known when some nodes were gone through and one of them may have been kept. -/
structure Scanned (seen : List Node) (kept : Option Node) : Prop where
  first : kept = seen.find? Node.isSupervisor
  single : seen.countP Node.isSupervisor ≤ 1

theorem Scanned.start : Scanned [] none := ⟨rfl, Nat.zero_le 1⟩

theorem Scanned.skip (scanned : Scanned seen kept) (other : node.isSupervisor = false) :
    Scanned (seen ++ [node]) kept := by
  constructor
  · rw [List.find?_append, ← scanned.first, List.find?_cons, other, List.find?_nil, Option.or_none]
  · rw [List.countP_append, List.countP_singleton, other]
    exact scanned.single

theorem Scanned.keep (scanned : Scanned seen none) (found : node.isSupervisor = true) :
    Scanned (seen ++ [node]) (some node) := by
  have none_seen : ∀ other ∈ seen, ¬ other.isSupervisor = true := List.find?_eq_none.mp scanned.first.symm
  constructor
  · rw [List.find?_append, ← scanned.first, Option.none_or, List.find?_cons, found]
  · rw [List.countP_append, List.countP_eq_zero.mpr none_seen, List.countP_singleton, found]
    exact Nat.le_refl 1

theorem Scanned.refuse {first : Node} (scanned : Scanned seen (some first)) (found : node.isSupervisor = true) :
    1 < (seen ++ node :: rest).countP Node.isSupervisor := by
  have some_seen : 0 < seen.countP Node.isSupervisor := by
    refine List.countP_pos_iff.mpr ⟨first, List.mem_of_find?_eq_some scanned.first.symm, ?_⟩
    exact List.find?_some scanned.first.symm
  rw [List.countP_append, List.countP_cons, found]
  simp only [↓reduceIte]
  omega

/-- How the pass over nodes ends. -/
inductive ScanEnds (nodes : List Node) : Except Fault (Option Node) → Prop where
  | passed {last} : Scanned nodes last → ScanEnds nodes (.ok last)
  | refused : 1 < nodes.countP Node.isSupervisor → ScanEnds nodes (.error .severalSupervisors)

theorem scanEnds_of_scanned (scanned : Scanned seen kept) (rest : List Node) :
    ScanEnds (seen ++ rest) (scanSupervisors kept rest) := by
  -- The node at the head moves to those that were seen; the invariant goes with it.
  induction rest generalizing seen kept with
  | nil =>
      rw [List.append_nil]
      exact .passed scanned
  | cons node rest ih =>
      rw [scanSupervisors]
      cases found : node.isSupervisor with
      | false =>
          have next := ih (scanned.skip found)
          rwa [List.append_assoc] at next
      | true =>
          cases kept with
          | some first => exact .refused (scanned.refuse found)
          | none =>
              have next := ih (scanned.keep found)
              rwa [List.append_assoc] at next

/-- The pass over the nodes finds what is counted and looked up apart from each other. -/
theorem scanSupervisors_eq (nodes : List Node) :
    scanSupervisors none nodes = (singleSupervisor nodes).map fun _ => nodes.find? Node.isSupervisor := by
  have ends := scanEnds_of_scanned .start nodes
  rw [List.nil_append] at ends
  generalize scanSupervisors none nodes = answer at ends
  cases ends with
  | passed scanned =>
      rw [singleSupervisor_eq_ok scanned.single]
      exact congrArg Except.ok scanned.first
  | refused several =>
      rw [singleSupervisor, dif_neg (Nat.not_le.mpr several)]
      rfl

/-!
## The nodes of a setup
-/

/-- The hosts that the monitoring asks for their state, and those that it asks for what they have pulled. -/
structure Monitors (setup : Setup) (asked pulling : List Node) : Prop where
  refused : setup.masters = [] → setup.prometheusVariables = .error .noMaster
  answered : setup.masters ≠ [] → ∃ values, setup.prometheusVariables = .ok values ∧
    values.get? "NODE-TARGETS" = some (quotedList (asked.map fun node =>
      node.hostname ++ "." ++ setup.cluster.externalDomain ++ ":9100")) ∧
    values.get? "PULL-TARGETS" = some (quotedList (pulling.map fun node =>
      node.hostname ++ "." ++ setup.cluster.externalDomain ++ ":9103"))

/-- No node holds the key server, and everything that asks for it is told so. -/
structure LacksKeyserver (setup : Setup) : Prop where
  keyserver? : setup.keyserver? = none
  anyNode : setup.anyNode .supervisor = .error (.noNodeOfKind .supervisor)
  keyserverName : setup.keyserverName = .error .noSupervisor
  monitors : Monitors setup setup.nodes setup.nodes

/-- One node holds the key server, and everything that asks for it is told of this node. -/
structure HoldsKeyserver (setup : Setup) (before : List Node) (node : Node) (after : List Node) : Prop where
  alone : ∀ other ∈ before ++ after, other.isSupervisor = false
  keyserver? : setup.keyserver? = some node
  anyNode : setup.anyNode .supervisor = .ok node
  keyserverName : setup.keyserverName = .ok (node.hostname ++ "." ++ setup.cluster.externalDomain)
  monitors : Monitors setup (before ++ node :: after) (before ++ after)

theorem anyNode_supervisor (setup : Setup) :
    setup.anyNode .supervisor =
      match setup.keyserver? with
      | some node => .ok node
      | none => .error (.noNodeOfKind .supervisor) := rfl

theorem targets_eq_quotedList (setup : Setup) (nodes : List Node) (service : Service) :
    setup.targets nodes service = quotedList (nodes.map fun node =>
      node.hostname ++ "." ++ setup.cluster.externalDomain ++ (":" ++ service.number.repr)) := by
  simp only [targets, qualify, String.append_assoc]

theorem monitors_filtered (setup : Setup) :
    Monitors setup setup.nodes (setup.nodes.filter fun node => !node.isSupervisor) := by
  constructor
  · intro absent
    rw [prometheusVariables, defaultMaster_of_nil absent]
    rfl
  · intro present
    obtain ⟨first, others, isCons⟩ := List.exists_cons_of_ne_nil present
    rw [prometheusVariables, defaultMaster_of_cons isCons]
    refine ⟨_, rfl, ?_, ?_⟩
    · refine Eq.trans ?_ (congrArg some (targets_eq_quotedList setup setup.nodes .nodeMetrics))
      simp [Dictionary.get?_ofList, List.lookup_cons]
    · refine Eq.trans ?_ (congrArg some (targets_eq_quotedList setup _ .pullMetrics))
      simp [Dictionary.get?_ofList, List.lookup_cons]

theorem filter_others (nobody : ∀ node ∈ nodes, node.isSupervisor = false) :
    (nodes.filter fun node => !node.isSupervisor) = nodes := by
  refine List.filter_eq_self.mpr fun node member => ?_
  rw [nobody node member]
  rfl

theorem lacksKeyserver (nobody : ∀ node ∈ setup.nodes, node.isSupervisor = false) : LacksKeyserver setup := by
  have absent : setup.keyserver? = none := by
    rw [keyserver?, List.find?_eq_none]
    intro node member
    rw [nobody node member]
    exact Bool.false_ne_true
  have monitors := monitors_filtered setup
  rw [filter_others nobody] at monitors
  constructor
  case keyserver? => exact absent
  case anyNode => rw [anyNode_supervisor, absent]
  case keyserverName => rw [keyserverName, absent]
  case monitors => exact monitors

theorem holdsKeyserver (isNodes : setup.nodes = before ++ node :: after) (holds : node.isSupervisor = true) :
    HoldsKeyserver setup before node after := by
  have single := setup.supervisors_le
  rw [isNodes, List.countP_append, List.countP_cons, holds] at single
  have none_before : before.countP Node.isSupervisor = 0 := by
    simp only [↓reduceIte] at single
    omega
  have none_after : after.countP Node.isSupervisor = 0 := by
    simp only [↓reduceIte] at single
    omega
  have alone : ∀ other ∈ before ++ after, other.isSupervisor = false := by
    intro other member
    rcases List.mem_append.mp member with earlier | later
    · exact Bool.eq_false_iff.mpr (List.countP_eq_zero.mp none_before other earlier)
    · exact Bool.eq_false_iff.mpr (List.countP_eq_zero.mp none_after other later)
  have found : setup.keyserver? = some node := by
    rw [keyserver?, isNodes, List.find?_append, List.find?_eq_none.mpr (List.countP_eq_zero.mp none_before),
      Option.none_or, List.find?_cons, holds]
  have others : (setup.nodes.filter fun node => !node.isSupervisor) = before ++ after := by
    rw [isNodes, List.filter_append, List.filter_cons, holds, ← filter_others alone, List.filter_append]
    rfl
  have monitors := monitors_filtered setup
  rw [others, isNodes] at monitors
  constructor
  case alone => exact alone
  case keyserver? => exact found
  case anyNode => rw [anyNode_supervisor, found]
  case keyserverName =>
    rw [keyserverName, found]
    rfl
  case monitors => exact monitors

theorem keyserver?_eq_some_iff :
    setup.keyserver? = some node ↔ node ∈ setup.nodes ∧ node.isSupervisor = true := by
  constructor
  · intro found
    exact ⟨List.mem_of_find?_eq_some found, List.find?_some found⟩
  · intro both
    obtain ⟨member, holds⟩ := both
    obtain ⟨before, after, isNodes⟩ := List.append_of_mem member
    exact (holdsKeyserver isNodes holds).keyserver?

theorem keyserverName_eq_noSupervisor_iff :
    setup.keyserverName = .error .noSupervisor ↔ ∀ node ∈ setup.nodes, node.isSupervisor = false := by
  constructor
  · intro failed node member
    cases holds : node.isSupervisor with
    | false => rfl
    | true =>
        rw [keyserverName, keyserver?_eq_some_iff.mpr ⟨member, holds⟩] at failed
        cases failed
  · intro nobody
    exact (lacksKeyserver nobody).keyserverName

/-- The key server and the list of nodes say the same, for everything that asks for either. -/
structure KeyserverAgrees (setup : Setup) : Prop where
  single : setup.nodes.countP Node.isSupervisor ≤ 1
  scanned : scanSupervisors none setup.nodes = .ok setup.keyserver?
  keyserver?_iff : ∀ node, setup.keyserver? = some node ↔ node ∈ setup.nodes ∧ node.isSupervisor = true
  keyserver?_eq : setup.keyserver? = (setup.anyNode .supervisor).toOption
  noSupervisor_iff : setup.keyserverName = .error .noSupervisor ↔
    ∀ node ∈ setup.nodes, node.isSupervisor = false
  lacking : (∀ node ∈ setup.nodes, node.isSupervisor = false) → LacksKeyserver setup
  holding : ∀ before node after, setup.nodes = before ++ node :: after → node.isSupervisor = true →
    HoldsKeyserver setup before node after

theorem keyserverAgrees (setup : Setup) : KeyserverAgrees setup := by
  constructor
  case single => exact setup.supervisors_le
  case scanned =>
    rw [scanSupervisors_eq, singleSupervisor_eq_ok setup.supervisors_le]
    rfl
  case keyserver?_iff =>
    intro node
    exact keyserver?_eq_some_iff
  case keyserver?_eq =>
    rw [anyNode_supervisor]
    cases setup.keyserver? with
    | none => rfl
    | some node => rfl
  case noSupervisor_iff => exact keyserverName_eq_noSupervisor_iff
  case lacking => exact lacksKeyserver
  case holding =>
    intro before node after isNodes holds
    exact holdsKeyserver isNodes holds

/-!
## The nodes of a document
-/

def countSupervisors (entries : List Value) : Nat :=
  entries.countP fun entry => Node.shown? "kind" entry == some "supervisor"

/-- Everything that is checked before the supervisors are counted passes. -/
structure PassesToSupervisors (document : Value) (entries : List Value) : Prop where
  root : shape.Accepts document
  blocks : ∀ block ∈ [Block.cluster, .addresses, .nameServers, .dnsBootstrap, .rootAdmins],
    block.fault? document = none
  nodes : document.fieldItems? "nodes" = some entries
  loadable : ∀ entry ∈ entries, Node.Loadable entry

theorem fault?_nodes (passes : PassesToSupervisors document entries) :
    Block.nodes.fault? document =
      if countSupervisors entries ≤ 1 then none else some .severalSupervisors := by
  obtain ⟨block, inDocument, areItems⟩ := Option.bind_eq_some_iff.mp passes.nodes
  have noFault : entries.findSome? (firstOf nodeChecks) = none := by
    refine List.findSome?_eq_none_iff.mpr fun entry member => ?_
    exact firstOf_nodeChecks_eq_none_iff.mpr (passes.loadable entry member)
  rw [Block.fault?, Block.nodes, inDocument, Option.bind_some]
  simp only [firstOf_cons, firstOf_nil, Option.or_none, sequenceFault?, itemsFault?, supervisorsFault?, areItems,
    Option.bind_some, noFault, Option.isSome_some, ↓reduceIte, Option.none_or]
  rfl

theorem firstFault?_of_passes (passes : PassesToSupervisors document entries) :
    firstFault? document = if countSupervisors entries ≤ 1 then none else some .severalSupervisors := by
  have order : Block.all =
      [Block.cluster, .addresses, .nameServers, .dnsBootstrap, .rootAdmins] ++ [Block.nodes] := rfl
  rw [firstFault?, shapeFault?_eq_none_iff.mpr passes.root, Option.none_or, order, List.findSome?_append,
    List.findSome?_eq_none_iff.mpr passes.blocks, Option.none_or, findSome?_blocks_cons, List.findSome?_nil,
    Option.or_none, fault?_nodes passes]

theorem severalSupervisors_iff (passes : PassesToSupervisors document entries) :
    read document = .error .severalSupervisors ↔ 2 ≤ countSupervisors entries := by
  rw [read_eq_error_iff, firstFault?_of_passes passes]
  split
  · rename_i single
    simp only [reduceCtorEq, false_iff]
    omega
  · rename_i several
    simp only [true_iff]
    omega

theorem exists_read_iff_single (passes : PassesToSupervisors document entries) :
    (∃ setup, read document = .ok setup) ↔ countSupervisors entries ≤ 1 := by
  rw [← Reading.fault?_eq_none_iff, fault?_read, firstFault?_of_passes passes]
  simp

theorem countSupervisors_of_read (isRead : read document = .ok setup) :
    ∃ entries, document.fieldItems? "nodes" = some entries ∧ List.Forall₂ Node.Describes entries setup.nodes ∧
      countSupervisors entries ≤ 1 := by
  obtain ⟨entries, areEntries, described⟩ := (loadable_of_read isRead).2.nodes
  refine ⟨entries, areEntries, described, ?_⟩
  rw [countSupervisors, countP_supervisors described]
  exact setup.supervisors_le

/-- **The key server.** A document that is read shows at most one supervisor, and everything that asks for
the key server of its setup is answered by this node. A document that passes every check before is refused
for its supervisors exactly if it shows two of them, and is read otherwise. -/
theorem keyserver_agrees (document : Value) :
    (∀ setup, read document = .ok setup → KeyserverAgrees setup ∧
      ∃ entries, document.fieldItems? "nodes" = some entries ∧
        List.Forall₂ Node.Describes entries setup.nodes ∧ countSupervisors entries ≤ 1) ∧
    ∀ entries, PassesToSupervisors document entries →
      (read document = .error .severalSupervisors ↔ 2 ≤ countSupervisors entries) ∧
      ((∃ setup, read document = .ok setup) ↔ countSupervisors entries ≤ 1) := by
  constructor
  · intro setup isRead
    exact ⟨keyserverAgrees setup, countSupervisors_of_read isRead⟩
  · intro entries passes
    exact ⟨severalSupervisors_iff passes, exists_read_iff_single passes⟩

theorem keyserver_agrees_sample :
    (∃ setup node, read (sample [] [sampleEntry "a" "10.0.0.1" "master", sampleEntry "b" "10.0.0.2" "supervisor",
        sampleEntry "b" "10.0.0.3" "worker"]) = .ok setup ∧ setup.keyserver? = some node ∧
      node.hostname = "b" ∧ setup.keyserverName = .ok "b.example.org") ∧
    read (sample [] [sampleEntry "b" "10.0.0.2" "supervisor", sampleEntry "b" "10.0.0.2" "supervisor"]) =
      .error .severalSupervisors := by
  constructor
  · obtain ⟨setup, isRead, both⟩ := Reading.exists_ok_of_any
      (show (read (sample [] [sampleEntry "a" "10.0.0.1" "master", sampleEntry "b" "10.0.0.2" "supervisor",
        sampleEntry "b" "10.0.0.3" "worker"])).toOption.any (fun setup =>
          setup.keyserver?.map Node.hostname == some "b" && setup.cluster.externalDomain == "example.org") = true by
        decide +kernel)
    simp only [Bool.and_eq_true, beq_iff_eq, Option.map_eq_some_iff] at both
    obtain ⟨⟨node, found, isName⟩, isDomain⟩ := both
    have agrees := ((keyserver_agrees _).1 setup isRead).1
    obtain ⟨member, holds⟩ := (agrees.keyserver?_iff node).mp found
    obtain ⟨before, after, isNodes⟩ := List.append_of_mem member
    have named := (agrees.holding before node after isNodes holds).keyserverName
    rw [isName, isDomain] at named
    exact ⟨setup, node, isRead, found, isName, named⟩
  · have passes : PassesToSupervisors
        (sample [] [sampleEntry "b" "10.0.0.2" "supervisor", sampleEntry "b" "10.0.0.2" "supervisor"])
        [sampleEntry "b" "10.0.0.2" "supervisor", sampleEntry "b" "10.0.0.2" "supervisor"] := by
      constructor
      case root => exact shapeFault?_eq_none_iff.mp (by decide +kernel)
      case blocks => decide +kernel
      case nodes => rfl
      case loadable =>
        intro entry member
        rw [← firstOf_nodeChecks_eq_none_iff]
        revert entry
        decide +kernel
    exact ((keyserver_agrees _).2 _ passes).1.mpr (by decide +kernel)

end ClusterConfig.Setup
