import ClusterConfig.Generated.ClusterConf
import ClusterConfig.Generated.KubeSpec
import ClusterConfig.Generated.Kubeconfig
import ClusterConfig.Generated.Prometheus
import ClusterConfig.Proofs.Setup.Loading

set_option autoImplicit false

/-!
# Reordering

The order of the entries of a mapping decides at most which of several entries a fault names. Two
documents that differ in such orders are read side by side, block by block. All this is said of values
in which no mapping holds a key twice, as none does in the value of a document.
-/

namespace ClusterConfig

open Yaml

namespace Yaml.Value

/-- Values that differ, through tags, at most in the entries of a mapping or the items of a sequence. -/
inductive Rearranged (entriesRel : Entries → Entries → Prop)
    (itemsRel : List Value → List Value → Prop) : Value → Value → Prop where
  | same (value) : Rearranged entriesRel itemsRel value value
  | mapping {left right} : entriesRel left right →
      Rearranged entriesRel itemsRel (.mapping left) (.mapping right)
  | sequence {left right} : itemsRel left right →
      Rearranged entriesRel itemsRel (.sequence left) (.sequence right)
  | tagged (tag) {left right} : Rearranged entriesRel itemsRel left right →
      Rearranged entriesRel itemsRel (.tagged tag left) (.tagged tag right)

/-- Values that differ at most in the order of the entries of a mapping. -/
def Shuffled : Value → Value → Prop := Rearranged List.Perm Eq

/-- Values that differ at most in the order of the entries of the mappings in a sequence. -/
def ItemsShuffled : Value → Value → Prop := Rearranged Eq (List.Forall₂ Shuffled)

section Rearranged

variable {entriesRel : Entries → Entries → Prop} {itemsRel : List Value → List Value → Prop}
  {left right : Value}

theorem Rearranged.entries? (rearranged : Rearranged entriesRel itemsRel left right)
    (reflexive : ∀ entries, entriesRel entries entries) :
    Option.Rel entriesRel left.entries? right.entries? := by
  induction rearranged with
  | same value =>
      cases value.entries? with
      | none => exact .none
      | some entries => exact .some (reflexive entries)
  | mapping related => exact .some related
  | sequence => exact .none
  | tagged tag _ ih => exact ih

theorem Rearranged.items? (rearranged : Rearranged entriesRel itemsRel left right)
    (reflexive : ∀ items, itemsRel items items) :
    Option.Rel itemsRel left.items? right.items? := by
  induction rearranged with
  | same value =>
      cases value.items? with
      | none => exact .none
      | some items => exact .some (reflexive items)
  | mapping => exact .none
  | sequence related => exact .some related
  | tagged tag _ ih => exact ih

end Rearranged

theorem forall₂_shuffled_refl (items : List Value) : List.Forall₂ Shuffled items items :=
  List.forall₂_same.mpr fun item _ => Rearranged.same item

end Yaml.Value

namespace Setup

/-- Blocks under a key that differ at most in the order of their entries, if the key is one of
`names`, or of the entries of their items, if they hold the nodes. -/
inductive BlockReordered (names : List String) : Value → Value → Value → Prop where
  | same (key block) : BlockReordered names key block block
  | entries {name left right} : name ∈ names → left.Shuffled right →
      BlockReordered names (.string name) left right
  | nodes {left right} : left.ItemsShuffled right →
      BlockReordered names (.string "nodes") left right

def RootReordered (names : List String) (left right : Entries) : Prop :=
  ∃ middle, List.Forall₂ (fun entry entry' =>
    entry.1 = entry'.1 ∧ BlockReordered names entry.1 entry.2 entry'.2) left middle ∧
    middle.Perm right

/-- Documents that differ at most in the order of their entries, of those of the nodes, and of those of
the blocks under the keys in `names`. -/
def Reordered (names : List String) : Value → Value → Prop :=
  Value.Rearranged (RootReordered names) Eq

/-- What kind of fault there is. -/
inductive Fault.Kind where
  | unexpectedKey
  | missingKey
  | invalidValue
  | notMapping
  | notSequence
  | notStrings
  | notAddress
  | notNetwork
  | notNodeKind
  | outsideServices
  | severalSupervisors
deriving DecidableEq, Repr

def Fault.kind : Fault → Kind
  | .shape (.unexpectedKey _) => .unexpectedKey
  | .shape (.missingKey _) => .missingKey
  | .shape (.invalidValue _ _) => .invalidValue
  | .shape (.notMapping _) => .notMapping
  | .shape (.notSequence _) => .notSequence
  | .shape (.notStrings _) => .notStrings
  | .notAddress _ => .notAddress
  | .notNetwork _ => .notNetwork
  | .notNodeKind _ => .notNodeKind
  | .outsideServices _ _ => .outsideServices
  | .severalSupervisors => .severalSupervisors

/-- Faults of one kind, which are the same unless they name an unexpected key or a value that is not
acceptable. -/
structure Fault.Alike (left right : Fault) : Prop where
  kind : left.kind = right.kind
  same : left.kind ≠ .unexpectedKey → left.kind ≠ .invalidValue → left = right

theorem Fault.Alike.refl (fault : Fault) : Fault.Alike fault fault := ⟨rfl, fun _ _ => rfl⟩

theorem Fault.alike_shape {left right : Shape.Fault} (alike : left.Alike right) :
    Fault.Alike (.shape left) (.shape right) := by
  cases alike with
  | same fault => exact .refl _
  | unexpectedKey => exact ⟨rfl, fun differs => absurd rfl differs⟩
  | invalidValue => exact ⟨rfl, fun _ differs => absurd rfl differs⟩

/-!
## Mappings of a fixed shape
-/

section Records

variable {α : Type} {shape : Shape α} {left right : Value}

/-- Mappings that are checked side by side. -/
theorem readRecord_alike {entriesRel : Entries → Entries → Prop}
    (related : Option.Rel entriesRel left.entries? right.entries?)
    (keys : ∀ entries entries', entriesRel entries entries' →
      (entries.map Prod.fst).Perm (entries'.map Prod.fst))
    (refused : ∀ entries entries', entriesRel entries entries' →
      ((∃ entry ∈ entries, shape.refuses entry = true) ↔
        ∃ entry ∈ entries', shape.refuses entry = true)) :
    Reading.Similar Fault.Alike (fun record record' => left.entries? = some record.entries ∧
        entriesRel record.entries record'.entries)
      (readRecord shape left) (readRecord shape right) := by
  refine Reading.Similar.mapError ?_ fun _ _ => Fault.alike_shape
  refine (Shape.entries_alike related).bind fun entries entries' held => ?_
  obtain ⟨isMapping, held⟩ := held
  refine (Shape.check_alike (keys _ _ held) (refused _ _ held)).imp fun record record' same => ?_
  rw [same.1, same.2]
  exact ⟨isMapping, held⟩

/-- The values under the keys do not depend on the order of the entries. -/
theorem readRecord_shuffled (shuffled : left.Shuffled right) (distinct : left.hasDistinctKeys = true) :
    Reading.Similar Fault.Alike
      (fun record record' => ∀ key expected, record.value key expected = record'.value key expected)
      (readRecord shape left) (readRecord shape right) := by
  have related := shuffled.entries? fun _ => List.Perm.refl _
  refine (readRecord_alike related (fun _ _ perm => perm.map _) fun entries entries' perm => ?_).imp
    fun record record' held key expected => ?_
  · simp only [perm.mem_iff]
  · obtain ⟨isMapping, perm⟩ := held
    have entriesDistinct := (Value.distinct_of_entries? distinct isMapping).1
    refine Option.some.inj ?_
    rw [← record.lookup?_eq_some expected, ← record'.lookup?_eq_some expected, Shape.lookup?,
      Shape.lookup?, entriesDistinct.get?_perm perm]

end Records

end Setup

theorem Cluster.read_alike {left right : Value} (shuffled : left.Shuffled right)
    (distinct : left.hasDistinctKeys = true) :
    Reading.Similar Setup.Fault.Alike Eq (Cluster.read left) (Cluster.read right) := by
  refine (Setup.readRecord_shuffled shuffled distinct).bind fun record record' same => ?_
  simp only [same]
  exact .refl .refl _

theorem Addressing.read_alike {left right : Value} (shuffled : left.Shuffled right)
    (distinct : left.hasDistinctKeys = true) :
    Reading.Similar Setup.Fault.Alike Eq (Addressing.read left) (Addressing.read right) := by
  refine (Setup.readRecord_shuffled shuffled distinct).bind fun record record' same => ?_
  simp only [same]
  exact .refl .refl _

theorem Node.read_alike {left right : Value} (shuffled : left.Shuffled right)
    (distinct : left.hasDistinctKeys = true) :
    Reading.Similar Setup.Fault.Alike Eq (Node.read left) (Node.read right) := by
  refine (Setup.readRecord_shuffled shuffled distinct).bind fun record record' same => ?_
  simp only [same]
  exact .refl .refl _

namespace Setup

theorem readNodes_alike {left right : Value} (shuffled : left.ItemsShuffled right)
    (distinct : left.hasDistinctKeys = true) :
    Reading.Similar Fault.Alike Eq (readNodes left) (readNodes right) := by
  have related := shuffled.items? Value.forall₂_shuffled_refl
  refine ((Shape.items_alike related).mapError fun _ _ => Fault.alike_shape).bind
    fun items items' held => ?_
  obtain ⟨isSequence, held⟩ := held
  have itemsDistinct := Value.distinct_of_items? distinct isSequence
  have each := ((List.forall₂_and_left _ _).mpr ⟨itemsDistinct, held⟩).imp
    fun _ _ both => Node.read_alike both.2 both.1
  refine (Reading.Similar.mapM each).imp fun _ _ same => ?_
  rwa [List.forall₂_eq_eq_eq] at same

/-!
## Documents
-/

section Documents

variable {names : List String} {left right : Value}

theorem BlockReordered.entriesShuffled {name : String} (reordered : BlockReordered names (.string name) left right)
    (notNodes : name ≠ "nodes") : left.Shuffled right := by
  cases reordered with
  | same => exact .same _
  | entries _ shuffled => exact shuffled
  | nodes => exact absurd rfl notNodes

theorem BlockReordered.eq {name : String} (reordered : BlockReordered names (.string name) left right)
    (unshuffled : name ∉ names) (notNodes : name ≠ "nodes") : left = right := by
  cases reordered with
  | same => rfl
  | entries member => exact absurd member unshuffled
  | nodes => exact absurd rfl notNodes

theorem BlockReordered.itemsShuffled (reordered : BlockReordered names (.string "nodes") left right)
    (unshuffled : "nodes" ∉ names) : left.ItemsShuffled right := by
  cases reordered with
  | same => exact .same _
  | entries member => exact absurd member unshuffled
  | nodes shuffled => exact shuffled

private theorem get?_of_reordered {entries middle : Entries}
    (reordered : List.Forall₂ (fun entry entry' =>
      entry.1 = entry'.1 ∧ BlockReordered names entry.1 entry.2 entry'.2) entries middle)
    (name : String) :
    Option.Rel (BlockReordered names (.string name)) (entries.get? name) (middle.get? name) := by
  induction reordered with
  | nil => exact .none
  | @cons entry entry' _ _ first later ih =>
      obtain ⟨sameKey, block⟩ := first
      rw [Entries.get?, Entries.get?, List.find?_cons, List.find?_cons, ← sameKey]
      cases isName : entry.1.isString name with
      | true =>
          rw [Value.isString_iff.mp isName] at block
          exact .some block
      | false => exact ih

private theorem keys_of_reordered {entries middle : Entries}
    (reordered : List.Forall₂ (fun entry entry' =>
      entry.1 = entry'.1 ∧ BlockReordered names entry.1 entry.2 entry'.2) entries middle) :
    entries.map Prod.fst = middle.map Prod.fst := by
  induction reordered with
  | nil => rfl
  | cons first later ih => rw [List.map_cons, List.map_cons, first.1, ih]

/-- The blocks of reordered documents, each with the one under the same key. -/
theorem readRoot_alike (reordered : Reordered names left right)
    (distinct : left.hasDistinctKeys = true) :
    Reading.Similar Fault.Alike
      (fun root root' => ∀ key expected, (root.value key expected).hasDistinctKeys = true ∧
        BlockReordered names (.string key) (root.value key expected) (root'.value key expected))
      (readRecord shape left) (readRecord shape right) := by
  have reflexive (entries : Entries) : RootReordered names entries entries :=
    ⟨entries, List.forall₂_same.mpr fun entry _ => ⟨rfl, .same entry.1 entry.2⟩, .refl entries⟩
  have accepted (entries : Entries) : ¬ ∃ entry ∈ entries, shape.refuses entry = true := by
    simp [Shape.refuses, shape]
  refine (readRecord_alike (reordered.entries? reflexive) ?_ fun entries entries' _ =>
    iff_of_false (accepted entries) (accepted entries')).imp fun root root' held key expected => ?_
  · intro entries entries' related
    obtain ⟨middle, reordered, perm⟩ := related
    rw [keys_of_reordered reordered]
    exact perm.map _
  · obtain ⟨isMapping, middle, reordered, perm⟩ := held
    obtain ⟨entriesDistinct, blocksDistinct⟩ := Value.distinct_of_entries? distinct isMapping
    have middleDistinct := entriesDistinct.of_keys_eq (keys_of_reordered reordered)
    have inLeft : root.entries.get? key = some (root.value key expected) := by
      rw [← root.lookup?_eq_some expected]
      exact (Option.bind_fun_some _).symm
    have inRight : root'.entries.get? key = some (root'.value key expected) := by
      rw [← root'.lookup?_eq_some expected]
      exact (Option.bind_fun_some _).symm
    have related := get?_of_reordered reordered key
    rw [middleDistinct.get?_perm perm, inLeft, inRight] at related
    cases related with
    | some block => exact ⟨blocksDistinct _ (Entries.mem_of_get? inLeft), block⟩

/-- Setups that differ at most in their tables of hosts. -/
structure AgreeBut (tables : Dictionary Address → Dictionary Address → Prop) (left right : Setup) :
    Prop where
  cluster : left.cluster = right.cluster
  addressing : left.addressing = right.addressing
  nameServers : left.nameServers = right.nameServers
  dnsBootstrap : tables left.dnsBootstrap right.dnsBootstrap
  rootAdmins : left.rootAdmins = right.rootAdmins
  nodes : left.nodes = right.nodes

/-- Reordered documents are read side by side, whatever is known about their tables of hosts. -/
theorem read_alike {faults : Fault → Fault → Prop}
    {tables : Dictionary Address → Dictionary Address → Prop}
    (weaker : ∀ fault fault', Fault.Alike fault fault' → faults fault fault')
    (unshuffled : ∀ name ∈ ["dns-upstreams", "root-admins", "nodes"], name ∉ names)
    (bootstrap : ∀ {block block'}, BlockReordered names (.string "dns-bootstrap") block block' →
      Reading.Similar faults tables (readBootstrap block) (readBootstrap block'))
    (reordered : Reordered names left right) (distinct : left.hasDistinctKeys = true) :
    Reading.Similar faults (AgreeBut tables) (read left) (read right) := by
  have weaken {β : Type} {reading reading' : Except Fault β}
      (alike : Reading.Similar Fault.Alike Eq reading reading') :
      Reading.Similar faults Eq reading reading' := alike.mono weaker fun _ _ same => same
  refine ((readRoot_alike reordered distinct).mono weaker fun _ _ held => held).bind
    fun root root' blocks => ?_
  obtain ⟨clusterDistinct, clusterBlock⟩ := blocks "cluster" (by decide)
  obtain ⟨addressesDistinct, addressesBlock⟩ := blocks "addresses" (by decide)
  obtain ⟨nodesDistinct, nodesBlock⟩ := blocks "nodes" (by decide)
  have serversBlock := (blocks "dns-upstreams" (by decide)).2
  have bootstrapBlock := (blocks "dns-bootstrap" (by decide)).2
  have adminsBlock := (blocks "root-admins" (by decide)).2
  refine (weaken (Cluster.read_alike (clusterBlock.entriesShuffled (by decide)) clusterDistinct)).bind
    fun cluster _ sameCluster => ?_
  refine (weaken (Addressing.read_alike (addressesBlock.entriesShuffled (by decide)) addressesDistinct)).bind
    fun addressing _ sameAddressing => ?_
  rw [← serversBlock.eq (unshuffled _ (by simp)) (by decide)]
  refine (weaken (.refl .refl _)).bind fun servers _ sameServers => ?_
  refine (bootstrap bootstrapBlock).bind fun table table' related => ?_
  rw [← adminsBlock.eq (unshuffled _ (by simp)) (by decide)]
  refine (weaken (.refl .refl _)).bind fun admins _ sameAdmins => ?_
  refine (weaken (readNodes_alike (nodesBlock.itemsShuffled (unshuffled _ (by simp)))
    nodesDistinct)).bind fun nodes _ sameNodes => ?_
  subst sameCluster sameAddressing sameServers sameAdmins sameNodes
  refine (weaken (.refl .refl _)).bind fun single single' _ => ?_
  exact .ok ⟨rfl, rfl, rfl, related, rfl, rfl⟩

end Documents

/-- Whether a table of hosts can be read does not depend on the order of its entries. -/
theorem readBootstrap_shuffled {left right : Value} (shuffled : left.Shuffled right) :
    Reading.Similar (fun _ _ => True) (fun _ _ => True) (readBootstrap left) (readBootstrap right) := by
  have related := shuffled.entries? fun _ => List.Perm.refl _
  refine ((Shape.entries_alike related).mapError fun _ _ _ => .intro).bind fun hosts hosts' held => ?_
  have similar : Reading.Similar (fun _ _ => True) (fun _ _ => True)
      (hosts.mapM readHost) (hosts'.mapM readHost) := by
    refine .of_exists_ok_iff ?_
    simp only [Reading.mapM_eq_ok_iff, Reading.exists_forall₂_iff, held.2.mem_iff]
  exact similar.bind fun _ _ _ => .ok .intro

/-- Setups for which the same files are generated. -/
structure SameArtifacts (left right : Setup) : Prop where
  clusterConf : left.clusterConf = right.clusterConf
  kubeconfigVariables : ∀ project, left.kubeconfigVariables project = right.kubeconfigVariables project
  prometheusVariables : left.prometheusVariables = right.prometheusVariables
  kubeSpecVariables : ∀ extra, left.kubeSpecVariables extra = right.kubeSpecVariables extra

/-- No file is generated from the table of hosts. -/
theorem AgreeBut.sameArtifacts {tables : Dictionary Address → Dictionary Address → Prop}
    {left right : Setup} (agree : AgreeBut tables left right) : SameArtifacts left right := by
  obtain ⟨cluster, addressing, servers, table, admins, nodes, _⟩ := left
  obtain ⟨cluster', addressing', servers', table', admins', nodes', _⟩ := right
  obtain ⟨rfl, rfl, rfl, _, rfl, rfl⟩ := agree
  exact ⟨rfl, fun _ => rfl, rfl, fun _ => rfl⟩

theorem AgreeBut.eq {left right : Setup} (agree : AgreeBut Eq left right) : left = right := by
  obtain ⟨cluster, addressing, servers, table, admins, nodes, _⟩ := left
  obtain ⟨cluster', addressing', servers', table', admins', nodes', _⟩ := right
  obtain ⟨rfl, rfl, rfl, rfl, rfl, rfl⟩ := agree
  rfl

/-- Without a change in the table of hosts, reordered documents are the same setup or have faults that
are alike. -/
theorem read_alike_of_reordered {left right : Value} (distinct : left.hasDistinctKeys = true)
    (reordered : Reordered ["cluster", "addresses"] left right) :
    Reading.Similar Fault.Alike Eq (read left) (read right) := by
  have similar : Reading.Similar Fault.Alike (AgreeBut Eq) (read left) (read right) := by
    refine read_alike (fun _ _ alike => alike) (by decide) (fun bootstrap => ?_) reordered distinct
    rw [bootstrap.eq (by decide) (by decide)]
    exact .refl .refl _
  exact similar.imp fun _ _ agree => agree.eq

theorem read_similar_of_reordered {left right : Value} (distinct : left.hasDistinctKeys = true)
    (reordered : Reordered ["cluster", "addresses", "dns-bootstrap"] left right) :
    Reading.Similar (fun _ _ => True) SameArtifacts (read left) (read right) := by
  have similar : Reading.Similar (fun _ _ => True) (AgreeBut fun _ _ => True) (read left) (read right) :=
    read_alike (fun _ _ _ => .intro) (by decide)
      (fun bootstrap => readBootstrap_shuffled (bootstrap.entriesShuffled (by decide)))
      reordered distinct
  exact similar.imp fun _ _ agree => agree.sameArtifacts

/-- **Reordering.** The order of the entries in a document, in its blocks of fixed shape and in its nodes
does not decide which setup the document is, nor of which kind its fault is. Together with the order of
the table of hosts it still does not decide whether the document is a setup, nor what is generated. -/
theorem read_reordered :
    (∀ {left right : Value}, left.hasDistinctKeys = true →
      Reordered ["cluster", "addresses"] left right →
        (∀ setup, read left = .ok setup ↔ read right = .ok setup) ∧
        ∀ fault, read left = .error fault →
          ∃ fault', read right = .error fault' ∧ Fault.Alike fault fault') ∧
      ∀ {left right : Value}, left.hasDistinctKeys = true →
        Reordered ["cluster", "addresses", "dns-bootstrap"] left right →
          ((∃ setup, read left = .ok setup) ↔ ∃ setup, read right = .ok setup) ∧
          ∀ setup setup', read left = .ok setup → read right = .ok setup' →
            SameArtifacts setup setup' := by
  constructor
  · intro left right distinct reordered
    have similar := read_alike_of_reordered distinct reordered
    revert similar
    generalize read left = reading, read right = reading'
    intro similar
    cases similar with
    | ok same => simp [same]
    | error alike => exact ⟨by simp, fun fault isFault => by cases isFault; exact ⟨_, rfl, alike⟩⟩
  · intro left right distinct reordered
    have similar := read_similar_of_reordered distinct reordered
    refine ⟨similar.exists_ok_iff, fun setup setup' isRead isRead' => ?_⟩
    rw [isRead, isRead'] at similar
    cases similar with
    | ok same => exact same

def sampleNode : Entries :=
  [(.string "hostname", .string "node"), (.string "ip", .string "10.0.0.1"),
    (.string "kind", .string "master")]

theorem read_reordered_sample :
    (∃ setup, read (sample [] [.mapping sampleNode]) = .ok setup ∧
        read (.mapping (sampleEntries [] [.mapping sampleNode.reverse]).reverse) = .ok setup) ∧
      ∃ setup setup', read (sample [] [.mapping sampleNode]) = .ok setup ∧
        read (.mapping (sampleEntries [] [.mapping sampleNode.reverse]).reverse) = .ok setup' ∧
        SameArtifacts setup setup' := by
  have distinct : (sample [] [.mapping sampleNode]).hasDistinctKeys = true := by decide +kernel
  have nodes : Value.ItemsShuffled (.sequence [.mapping sampleNode])
      (.sequence [.mapping sampleNode.reverse]) :=
    .sequence (.cons (.mapping sampleNode.reverse_perm.symm) .nil)
  have reordered (names : List String) : Reordered names (sample [] [.mapping sampleNode])
      (.mapping (sampleEntries [] [.mapping sampleNode.reverse]).reverse) := by
    refine .mapping ⟨_, ?_, (List.reverse_perm _).symm⟩
    exact .cons ⟨rfl, .same _ _⟩ (.cons ⟨rfl, .same _ _⟩ (.cons ⟨rfl, .same _ _⟩
      (.cons ⟨rfl, .same _ _⟩ (.cons ⟨rfl, .same _ _⟩ (.cons ⟨rfl, .nodes nodes⟩ .nil)))))
  obtain ⟨setup, isRead⟩ : ∃ setup, read (sample [] [.mapping sampleNode]) = .ok setup :=
    Reading.fault?_eq_none_iff.mp (by decide +kernel)
  have isRead' := ((read_reordered.1 distinct (reordered _)).1 setup).mp isRead
  exact ⟨⟨setup, isRead, isRead'⟩, setup, setup, isRead, isRead',
    (read_reordered.2 distinct (reordered _)).2 setup setup isRead isRead'⟩

end Setup

end ClusterConfig
