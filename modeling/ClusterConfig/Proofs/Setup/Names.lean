import ClusterConfig.Proofs.Text
import ClusterConfig.Setup.Lookup

set_option autoImplicit false

/-!
# Which node a name stands for

A name is taken without its domain as soon as it ends in one. A host name that itself ends in a domain of
the cluster is therefore not its own name, and may be nobody's.
-/

namespace ClusterConfig.Setup

variable {setup : Setup} {name hostname result : String}

theorem hasNode_iff : setup.hasNode name = true ↔ ∃ node ∈ setup.nodes, node.hostname = name := by
  simp [hasNode]

theorem hasNode_of_mem {node : Node} (listed : node ∈ setup.nodes) :
    setup.hasNode node.hostname = true :=
  hasNode_iff.mpr ⟨node, listed, rfl⟩

/-- A name that ends in a domain of the cluster, after a point. -/
def InDomain (setup : Setup) (name : String) : Prop :=
  ∃ hostname, name = hostname ++ "." ++ setup.cluster.externalDomain ∨
    name = hostname ++ "." ++ setup.cluster.internalDomain

/-- The node that a name stands for, by its host name. The external domain is taken off first; the internal
one counts only if that does not lead to a node. -/
inductive StandsFor (setup : Setup) (name : String) : String → Prop where
  | external {hostname : String} :
      setup.hasNode hostname = true → name = setup.qualify hostname → StandsFor setup name hostname
  | internal {hostname : String} :
      setup.hasNode hostname = true → name = hostname ++ "." ++ setup.cluster.internalDomain →
      (∀ other, name = setup.qualify other → setup.hasNode other = false) →
      StandsFor setup name hostname
  | bare : setup.hasNode name = true → ¬ setup.InDomain name → StandsFor setup name name

def withoutDomain? (domain name : String) : Option String := Text.withoutSuffix? ("." ++ domain) name

theorem withoutDomain?_eq_some_iff {domain : String} :
    withoutDomain? domain name = some hostname ↔ name = hostname ++ "." ++ domain := by
  rw [withoutDomain?, Text.withoutSuffix?_eq_some_iff, String.append_assoc]

theorem withoutDomain?_eq_none_iff {domain : String} :
    withoutDomain? domain name = none ↔ ∀ hostname, name ≠ hostname ++ "." ++ domain := by
  simp only [withoutDomain?, Text.withoutSuffix?_eq_none_iff, String.append_assoc]

theorem candidates_eq (setup : Setup) (name : String) :
    setup.candidates name =
      match withoutDomain? setup.cluster.externalDomain name,
        withoutDomain? setup.cluster.internalDomain name with
      | none, none => [name]
      | some outer, none => [outer]
      | none, some inner => [inner]
      | some outer, some inner => [outer, inner] := by
  simp only [candidates, withoutDomain?]
  cases outer : Text.withoutSuffix? ("." ++ setup.cluster.externalDomain) name <;>
    cases inner : Text.withoutSuffix? ("." ++ setup.cluster.internalDomain) name <;>
      simp [outer, inner]

theorem not_inDomain_iff :
    ¬ setup.InDomain name ↔ withoutDomain? setup.cluster.externalDomain name = none ∧
      withoutDomain? setup.cluster.internalDomain name = none := by
  rw [withoutDomain?_eq_none_iff, withoutDomain?_eq_none_iff, ← forall_and, InDomain, not_exists]
  exact forall_congr' fun hostname => not_or

theorem find?_candidates_of_standsFor (standsFor : setup.StandsFor name hostname) :
    (setup.candidates name).find? setup.hasNode = some hostname := by
  rw [candidates_eq]
  cases standsFor with
  | external isNode isName =>
      rw [withoutDomain?_eq_some_iff.mpr isName]
      cases withoutDomain? setup.cluster.internalDomain name <;> exact List.find?_cons_of_pos isNode
  | internal isNode isName others =>
      rw [withoutDomain?_eq_some_iff.mpr isName]
      cases isOuter : withoutDomain? setup.cluster.externalDomain name with
      | none => exact List.find?_cons_of_pos isNode
      | some outer =>
          have noNode := others outer (withoutDomain?_eq_some_iff.mp isOuter)
          simp [noNode, isNode]
  | bare isNode notInDomain =>
      obtain ⟨notOuter, notInner⟩ := not_inDomain_iff.mp notInDomain
      rw [notOuter, notInner]
      exact List.find?_cons_of_pos isNode

theorem standsFor_of_find?_candidates
    (found : (setup.candidates name).find? setup.hasNode = some hostname) :
    setup.StandsFor name hostname := by
  have isNode := List.find?_some found
  have isCandidate := List.mem_of_find?_eq_some found
  rw [candidates_eq] at found isCandidate
  cases isOuter : withoutDomain? setup.cluster.externalDomain name with
  | none =>
      cases isInner : withoutDomain? setup.cluster.internalDomain name with
      | none =>
          obtain rfl : hostname = name := by simpa [isOuter, isInner] using isCandidate
          exact .bare isNode (not_inDomain_iff.mpr ⟨isOuter, isInner⟩)
      | some inner =>
          obtain rfl : hostname = inner := by simpa [isOuter, isInner] using isCandidate
          refine .internal isNode (withoutDomain?_eq_some_iff.mp isInner) fun other isName => ?_
          exact absurd isName (withoutDomain?_eq_none_iff.mp isOuter other)
  | some outer =>
      have isName := withoutDomain?_eq_some_iff.mp isOuter
      by_cases outerNode : setup.hasNode outer = true
      · obtain rfl : outer = hostname := by
          cases isInner : withoutDomain? setup.cluster.internalDomain name <;>
            simpa [isOuter, isInner, List.find?_cons, outerNode] using found
        exact .external outerNode isName
      -- The name without its external domain is nobody's, so it was found without its internal one.
      · cases isInner : withoutDomain? setup.cluster.internalDomain name with
        | none =>
            obtain rfl : hostname = outer := by simpa [isOuter, isInner] using isCandidate
            exact absurd isNode outerNode
        | some inner =>
            have isEither : hostname = outer ∨ hostname = inner := by
              simpa [isOuter, isInner] using isCandidate
            rcases isEither with rfl | rfl
            · exact absurd isNode outerNode
            · refine .internal isNode (withoutDomain?_eq_some_iff.mp isInner) fun other isOther => ?_
              have same := (withoutDomain?_eq_some_iff.mpr isOther).symm.trans isOuter
              rw [Option.some.inj same]
              exact (Bool.not_eq_true _).mp outerNode

theorem find?_candidates_eq_some_iff :
    (setup.candidates name).find? setup.hasNode = some hostname ↔ setup.StandsFor name hostname :=
  ⟨standsFor_of_find?_candidates, find?_candidates_of_standsFor⟩

theorem qualifiedName_eq_ok_iff :
    setup.qualifiedName name = .ok result ↔
      ∃ hostname, setup.StandsFor name hostname ∧ result = setup.qualify hostname := by
  rw [qualifiedName]
  constructor
  · intro isName
    split at isName
    · rename_i hostname found
      exact ⟨hostname, find?_candidates_eq_some_iff.mp found, (Except.ok.inj isName).symm⟩
    · cases isName
  · intro facts
    obtain ⟨hostname, standsFor, rfl⟩ := facts
    rw [find?_candidates_eq_some_iff.mpr standsFor]

theorem qualify_inj {left right : String} (same : setup.qualify left = setup.qualify right) :
    left = right := by
  simp only [qualify, ← String.toList_inj, String.toList_append] at same
  exact String.toList_injective (List.append_cancel_right (List.append_cancel_right same))

theorem ne_of_in_domain {domain : String} (isName : name = hostname ++ "." ++ domain) :
    hostname ≠ name := by
  intro same
  have lengths := congrArg String.length (same.trans isName)
  simp only [String.length_append] at lengths
  have point : ".".length = 1 := rfl
  omega

/-- **Names of nodes.** A node goes by its own qualified name exactly if its host name does not itself end
in a domain of the cluster. -/
theorem qualifiedName_of_node_iff {node : Node} (listed : node ∈ setup.nodes) :
    setup.qualifiedName node.hostname = .ok (setup.qualify node.hostname) ↔
      ¬ setup.InDomain node.hostname := by
  rw [qualifiedName_eq_ok_iff]
  constructor
  · intro facts
    obtain ⟨hostname, standsFor, isOwn⟩ := facts
    obtain rfl := qualify_inj isOwn
    cases standsFor with
    | external _ isName => exact absurd rfl (ne_of_in_domain isName)
    | internal _ isName _ => exact absurd rfl (ne_of_in_domain isName)
    | bare _ notInDomain => exact notInDomain
  · intro notInDomain
    exact ⟨node.hostname, .bare (hasNode_of_mem listed) notInDomain, rfl⟩

/-- The only node of a setup has no name at all if its host name ends in a domain. -/
theorem not_standsFor_of_alone {node : Node} (alone : setup.nodes = [node])
    (inDomain : setup.InDomain node.hostname) (hostname : String) :
    ¬ setup.StandsFor node.hostname hostname := by
  have isAlone {hostname : String} (isNode : setup.hasNode hostname = true) : hostname = node.hostname := by
    obtain ⟨other, listed, rfl⟩ := hasNode_iff.mp isNode
    rw [alone, List.mem_singleton] at listed
    rw [listed]
  intro standsFor
  cases standsFor with
  | external isNode isName => exact ne_of_in_domain isName (isAlone isNode)
  | internal isNode isName _ => exact ne_of_in_domain isName (isAlone isNode)
  | bare _ notInDomain => exact notInDomain inDomain

theorem qualifiedName_eq_error (nobody : ∀ hostname, ¬ setup.StandsFor name hostname) :
    setup.qualifiedName name = .error (.noSuchNode name) := by
  have notFound : (setup.candidates name).find? setup.hasNode = none :=
    Option.eq_none_iff_forall_ne_some.mpr fun hostname found =>
      nobody hostname (find?_candidates_eq_some_iff.mp found)
  rw [qualifiedName, notFound]

end ClusterConfig.Setup
