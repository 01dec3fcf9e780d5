import ClusterConfig.Proofs.Setup.Loading
import ClusterConfig.Proofs.Setup.Names

set_option autoImplicit false

/-!
# Resolution of names

Which names are answered with the qualified name of a node, said by the host names of the nodes and the two
domains alone. Nothing is assumed of the domains: one may end in the other, and both may be the same.
-/

namespace ClusterConfig.Setup

variable {setup : Setup} {name result : String} {node : Node}

/-- The ways in which a name can mean a node. A name in the external domain that is the name of a node there
means no other node, and a name that ends in a domain is not taken as it stands. -/
inductive Means (setup : Setup) (name : String) (node : Node) : Prop where
  | external : name = node.hostname ++ "." ++ setup.cluster.externalDomain → Means setup name node
  | internal : name = node.hostname ++ "." ++ setup.cluster.internalDomain →
      (∀ other ∈ setup.nodes, name ≠ other.hostname ++ "." ++ setup.cluster.externalDomain) →
      Means setup name node
  | bare : name = node.hostname →
      (∀ front, name ≠ front ++ "." ++ setup.cluster.externalDomain ∧
        name ≠ front ++ "." ++ setup.cluster.internalDomain) → Means setup name node

theorem not_inDomain_iff_forall :
    ¬ setup.InDomain name ↔ ∀ front, name ≠ front ++ "." ++ setup.cluster.externalDomain ∧
      name ≠ front ++ "." ++ setup.cluster.internalDomain := by
  rw [InDomain, not_exists]
  exact forall_congr' fun front => not_or

theorem nobody_outside_iff :
    (∀ other, name = setup.qualify other → setup.hasNode other = false) ↔
      ∀ other ∈ setup.nodes, name ≠ other.hostname ++ "." ++ setup.cluster.externalDomain := by
  constructor
  · intro nobody other listed isName
    exact Bool.false_ne_true ((nobody other.hostname isName).symm.trans (hasNode_of_mem listed))
  · intro others hostname isName
    rw [← Bool.not_eq_true, hasNode_iff]
    intro isNode
    obtain ⟨other, listed, rfl⟩ := isNode
    exact others other listed isName

/-- The node that a name stands for is one that the name means. -/
theorem exists_means_iff {hostname : String} :
    setup.StandsFor name hostname ↔ ∃ node ∈ setup.nodes, setup.Means name node ∧ node.hostname = hostname := by
  constructor
  · intro standsFor
    cases standsFor with
    | external isNode isName =>
        obtain ⟨node, listed, rfl⟩ := hasNode_iff.mp isNode
        exact ⟨node, listed, .external isName, rfl⟩
    | internal isNode isName nobody =>
        obtain ⟨node, listed, rfl⟩ := hasNode_iff.mp isNode
        exact ⟨node, listed, .internal isName (nobody_outside_iff.mp nobody), rfl⟩
    | bare isNode notInDomain =>
        obtain ⟨node, listed, isName⟩ := hasNode_iff.mp isNode
        exact ⟨node, listed, .bare isName.symm (not_inDomain_iff_forall.mp notInDomain), isName⟩
  · intro facts
    obtain ⟨node, listed, means, rfl⟩ := facts
    have isNode := hasNode_of_mem listed
    cases means with
    | external isName => exact .external isNode isName
    | internal isName others => exact .internal isNode isName (nobody_outside_iff.mpr others)
    | bare isName inNeither =>
        subst isName
        exact .bare isNode (not_inDomain_iff_forall.mpr inNeither)

theorem qualifiedName_eq_ok_iff_means :
    setup.qualifiedName name = .ok result ↔
      ∃ node ∈ setup.nodes, setup.Means name node ∧
        result = node.hostname ++ "." ++ setup.cluster.externalDomain := by
  rw [qualifiedName_eq_ok_iff]
  constructor
  · intro facts
    obtain ⟨hostname, standsFor, rfl⟩ := facts
    obtain ⟨node, listed, means, rfl⟩ := exists_means_iff.mp standsFor
    exact ⟨node, listed, means, rfl⟩
  · intro facts
    obtain ⟨node, listed, means, rfl⟩ := facts
    exact ⟨node.hostname, exists_means_iff.mpr ⟨node, listed, means, rfl⟩, rfl⟩

theorem qualifiedName_eq_error_iff :
    setup.qualifiedName name = .error (.noSuchNode name) ↔ ∀ node ∈ setup.nodes, ¬ setup.Means name node := by
  constructor
  · intro refused node listed means
    have found := qualifiedName_eq_ok_iff_means.mpr ⟨node, listed, means, rfl⟩
    rw [refused] at found
    cases found
  · intro nobody
    refine qualifiedName_eq_error fun hostname standsFor => ?_
    obtain ⟨node, listed, means, _⟩ := exists_means_iff.mp standsFor
    exact nobody node listed means

/-- Every node is found by its qualified name, whatever else that name could mean. -/
theorem qualifiedName_qualified (listed : node ∈ setup.nodes) :
    setup.qualifiedName (node.hostname ++ "." ++ setup.cluster.externalDomain) =
      .ok (node.hostname ++ "." ++ setup.cluster.externalDomain) :=
  qualifiedName_eq_ok_iff_means.mpr ⟨node, listed, .external rfl, rfl⟩

/-- **Resolution of names.** A name is answered with the qualified name of a node exactly if it means that
node; otherwise it is reported as the name of no node. So every node is found by its qualified name, and what
a name is answered with is answered with itself. -/
theorem qualifiedName_resolves (setup : Setup) (name : String) :
    (∀ result, setup.qualifiedName name = .ok result ↔
      ∃ node ∈ setup.nodes, setup.Means name node ∧
        result = node.hostname ++ "." ++ setup.cluster.externalDomain) ∧
    (setup.qualifiedName name = .error (.noSuchNode name) ↔
      ∀ node ∈ setup.nodes, ¬ setup.Means name node) ∧
    (∀ node ∈ setup.nodes, setup.qualifiedName (node.hostname ++ "." ++ setup.cluster.externalDomain) =
      .ok (node.hostname ++ "." ++ setup.cluster.externalDomain)) ∧
    ∀ result, setup.qualifiedName name = .ok result → setup.qualifiedName result = .ok result := by
  refine ⟨fun result => qualifiedName_eq_ok_iff_means, qualifiedName_eq_error_iff, ?_, ?_⟩
  · intro node listed
    exact qualifiedName_qualified listed
  · intro result isName
    obtain ⟨node, listed, _, rfl⟩ := qualifiedName_eq_ok_iff_means.mp isName
    exact qualifiedName_qualified listed

/-- A node that is named like the internal name of another one: the name means the other one. -/
theorem qualifiedName_resolves_internal :
    ∃ setup, read (sample [] [sampleEntry "a.example.lan" "10.0.0.1" "master",
        sampleEntry "a" "10.0.0.2" "worker"]) = .ok setup ∧
      setup.hasNode "a.example.lan" = true ∧
      setup.qualifiedName "a.example.lan" = .ok "a.example.org" ∧
      setup.qualifiedName "a.example.org" = .ok "a.example.org" := by
  obtain ⟨setup, isRead, checked⟩ := Reading.exists_ok_of_any
    (show (read (sample [] [sampleEntry "a.example.lan" "10.0.0.1" "master",
        sampleEntry "a" "10.0.0.2" "worker"])).toOption.any (fun setup =>
          setup.nodes.map Node.hostname = ["a.example.lan", "a"] ∧
            setup.cluster.externalDomain = "example.org" ∧ setup.cluster.internalDomain = "example.lan") = true by
      decide +kernel)
  obtain ⟨areNames, isOuter, isInner⟩ := of_decide_eq_true checked
  have isName (hostname : String) (member : hostname ∈ ["a.example.lan", "a"]) :
      ∃ node ∈ setup.nodes, node.hostname = hostname := List.mem_map.mp (areNames ▸ member)
  obtain ⟨node, listed, isHostname⟩ := isName "a" (by decide)
  have others : ∀ other ∈ setup.nodes,
      "a.example.lan" ≠ other.hostname ++ "." ++ setup.cluster.externalDomain := by
    intro other member
    have isEither : other.hostname ∈ ["a.example.lan", "a"] := areNames ▸ List.mem_map_of_mem member
    rw [isOuter]
    rcases List.mem_pair.mp isEither with same | same <;> rw [same] <;> decide
  obtain ⟨found, -, -, again⟩ := qualifiedName_resolves setup "a.example.lan"
  have isResult : setup.qualifiedName "a.example.lan" = .ok "a.example.org" := by
    refine (found _).mpr ⟨node, listed, .internal ?_ others, ?_⟩
    · rw [isHostname, isInner]
      rfl
    · rw [isHostname, isOuter]
      rfl
  exact ⟨setup, isRead, hasNode_iff.mpr (isName _ (by decide)), isResult, again _ isResult⟩

end ClusterConfig.Setup
