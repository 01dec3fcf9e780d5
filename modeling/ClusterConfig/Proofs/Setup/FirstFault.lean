import ClusterConfig.Proofs.Setup.Loading

set_option autoImplicit false

/-!
# The first fault

The checks that a document must pass, in one fixed order. Each of them looks at one block only and stands
for itself. The fault of a document is that of the first check that it does not pass.
-/

namespace ClusterConfig.Setup

open Yaml

/-!
## Checks
-/

variable {α : Type}

/-- The fault of what should be a mapping of the shape. -/
def shapeFault? (shape : Shape α) (value : Value) : Option Fault :=
  match value.entries? with
  | none => some (.shape (.notMapping shape.name))
  | some entries => (shape.fault? entries).map .shape

def mappingFault? (name : String) (value : Value) : Option Fault :=
  if value.entries?.isSome then none else some (.shape (.notMapping name))

def sequenceFault? (name : String) (value : Value) : Option Fault :=
  if value.items?.isSome then none else some (.shape (.notSequence name))

/-- The fault of a sequence that should hold strings only. -/
def stringsFault? (name : String) (value : Value) : Option Fault :=
  value.items?.bind fun items =>
    if items.all fun item => item.string?.isSome then none else some (.shape (.notStrings name))

def addressFault? (text : String) : Option Fault :=
  if (Address.parse? text).isSome then none else some (.notAddress text)

def networkFault? (text : String) : Option Fault :=
  match Network.parse text with
  | .ok _ => none
  | .error fault => some (.notNetwork fault)

def kindFault? (word : String) : Option Fault :=
  if word ∈ ["master", "worker", "supervisor"] then none else some (.notNodeKind word)

def textFault? (key : String) (check : String → Option Fault) (block : Value) : Option Fault :=
  (block.fieldText? key).bind check

/-- The fault of a service whose address is not in the network of the services. -/
def serviceFault? (key : String) (block : Value) : Option Fault :=
  (Addressing.network? "cidr-services" block).bind fun services =>
    (Addressing.address? key block).bind fun address =>
      if services.contains address then none else some (.outsideServices address services)

/-- The fault of the text that shows the value under a key. -/
def shownFault? (key : String) (check : String → Option Fault) (entry : Value) : Option Fault :=
  (Node.shown? key entry).bind check

def itemsFault? (check : Value → Option Fault) (block : Value) : Option Fault :=
  block.items?.bind fun items => items.findSome? check

def valuesFault? (check : Value → Option Fault) (block : Value) : Option Fault :=
  block.entries?.bind fun entries => entries.findSome? fun entry => check entry.2

/-- The fault of a list of nodes more than one of which is a supervisor. -/
def supervisorsFault? (block : Value) : Option Fault :=
  block.items?.bind fun entries =>
    if entries.countP (fun entry => Node.shown? "kind" entry == some "supervisor") ≤ 1 then none
    else some .severalSupervisors

def firstOf (checks : List (Value → Option Fault)) (value : Value) : Option Fault :=
  checks.findSome? fun check => check value

def nodeChecks : List (Value → Option Fault) :=
  [shapeFault? Node.shape, shownFault? "ip" addressFault?, shownFault? "kind" kindFault?]

/-- A block with its checks. -/
structure Block where
  key : String
  checks : List (Value → Option Fault)

namespace Block

def cluster : Block := ⟨"cluster", [shapeFault? Cluster.shape]⟩

def addresses : Block := ⟨"addresses",
  [shapeFault? Addressing.shape, textFault? "cidr-nodes" networkFault?,
    textFault? "cidr-pods" networkFault?, textFault? "cidr-services" networkFault?,
    textFault? "service-api" addressFault?, textFault? "service-dns" addressFault?,
    serviceFault? "service-api", serviceFault? "service-dns"]⟩

def nameServers : Block := ⟨"dns-upstreams",
  [sequenceFault? "dns-upstreams", itemsFault? fun server => addressFault? server.text]⟩

def dnsBootstrap : Block := ⟨"dns-bootstrap",
  [mappingFault? "dns-bootstrap", valuesFault? fun host => addressFault? host.text]⟩

def rootAdmins : Block := ⟨"root-admins",
  [sequenceFault? "root-admins", stringsFault? "root-admins"]⟩

def nodes : Block := ⟨"nodes",
  [sequenceFault? "nodes", itemsFault? (firstOf nodeChecks), supervisorsFault?]⟩

/-- All blocks, in the order in which they are checked. -/
def all : List Block := [cluster, addresses, nameServers, dnsBootstrap, rootAdmins, nodes]

/-- The first fault of a block of a document, wherever the block stands there. -/
def fault? (document : Value) (block : Block) : Option Fault :=
  (document.field? block.key).bind (firstOf block.checks)

end Block

def firstFault? (document : Value) : Option Fault :=
  (shapeFault? shape document).or (Block.all.findSome? (Block.fault? document))

theorem firstOf_cons (check : Value → Option Fault) (checks : List (Value → Option Fault))
    (value : Value) : firstOf (check :: checks) value = (check value).or (firstOf checks value) := by
  rw [firstOf, List.findSome?_cons]
  cases check value <;> rfl

theorem firstOf_nil (value : Value) : firstOf [] value = none := rfl

theorem findSome?_blocks_cons (document : Value) (block : Block) (blocks : List Block) :
    (block :: blocks).findSome? (Block.fault? document) =
      (block.fault? document).or (blocks.findSome? (Block.fault? document)) := by
  rw [List.findSome?_cons]
  cases Block.fault? document block <;> rfl

/-!
## Single checks
-/

theorem fault?_readRecord (shape : Shape α) (value : Value) :
    Reading.fault? (readRecord shape value) = shapeFault? shape value := by
  rw [readRecord, Reading.fault?_mapError, Shape.read, Shape.entries, shapeFault?]
  cases value.entries? with
  | none => rfl
  | some entries => exact congrArg (Option.map Fault.shape) (Shape.fault?_check shape entries)

theorem shapeFault?_eq_none_iff {shape : Shape α} {value : Value} :
    shapeFault? shape value = none ↔ shape.Accepts value := by
  rw [← fault?_readRecord, Reading.fault?_eq_none_iff, exists_readRecord_iff]

theorem fault?_readAddress (text : String) :
    Reading.fault? (readAddress text) = addressFault? text := by
  unfold readAddress addressFault?
  cases Address.parse? text <;> rfl

theorem fault?_readNetwork (text : String) :
    Reading.fault? (readNetwork text) = networkFault? text := by
  unfold readNetwork networkFault?
  cases Network.parse text <;> rfl

theorem fault?_readKind (word : String) : Reading.fault? (Node.Kind.read word) = kindFault? word := by
  unfold kindFault?
  split
  · rename_i isKind
    simp only [List.mem_cons, List.not_mem_nil, or_false] at isKind
    rcases isKind with rfl | rfl | rfl <;> rfl
  · rename_i noKind
    unfold Node.Kind.read
    split
    · rename_i kind found
      have spelled : kind.text = word := by simpa using List.find?_some found
      cases kind <;> simp [← spelled, Node.Kind.text] at noKind
    · rfl

theorem fault?_entries (name : String) (value : Value) :
    Reading.fault? ((Shape.entries name value).mapError Fault.shape) = mappingFault? name value := by
  unfold Shape.entries mappingFault?
  cases value.entries? <;> rfl

theorem fault?_items (name : String) (value : Value) :
    Reading.fault? ((Shape.items name value).mapError Fault.shape) = sequenceFault? name value := by
  unfold Shape.items sequenceFault?
  cases value.items? <;> rfl

theorem items?_of_read {name : String} {value : Value} {items : List Value}
    (isRead : (Shape.items name value).mapError Fault.shape = .ok items) :
    value.items? = some items :=
  Shape.items_eq_ok_iff.mp (Reading.mapError_eq_ok_iff.mp isRead)

theorem entries?_of_read {name : String} {value : Value} {entries : Entries}
    (isRead : (Shape.entries name value).mapError Fault.shape = .ok entries) :
    value.entries? = some entries :=
  Shape.entries_eq_ok_iff.mp (Reading.mapError_eq_ok_iff.mp isRead)

/-!
## Blocks
-/

theorem fault?_readCluster (block : Value) :
    Reading.fault? (Cluster.read block) = firstOf Block.cluster.checks block := by
  rw [Block.cluster, firstOf_cons, firstOf_nil, ← fault?_readRecord]
  exact Reading.fault?_bind fun record _ => rfl

private theorem textFault?_of_readRecord {block : Value} {record : Addressing.shape.Record}
    (isRecord : readRecord Addressing.shape block = .ok record) (check : String → Option Fault)
    (key : String) (expected : key ∈ Addressing.shape.keys := by decide) :
    textFault? key check block = check (record.value key expected) := by
  rw [textFault?, Addressing.text_of_readRecord isRecord key expected, Option.bind_some]

private theorem serviceFault?_of_parts {block : Value} {services : Network} {address : Address}
    {key : String} (isServices : Addressing.network? "cidr-services" block = some services)
    (isAddress : Addressing.address? key block = some address) :
    serviceFault? key block = Reading.fault? (Addressing.inside services address) := by
  rw [serviceFault?, isServices, isAddress, Option.bind_some, Option.bind_some, Addressing.inside]
  by_cases found : services.contains address = true
  · rw [if_pos found, dif_pos found, Reading.fault?_ok]
  · rw [if_neg found, dif_neg found, Reading.fault?_error]

/-- The services are compared with their network after all texts of the block are read. -/
theorem fault?_readAddressing (block : Value) :
    Reading.fault? (Addressing.read block) = firstOf Block.addresses.checks block := by
  simp only [Block.addresses, firstOf_cons, firstOf_nil]
  rw [← fault?_readRecord]
  refine Reading.fault?_bind fun record isRecord => ?_
  rw [textFault?_of_readRecord isRecord networkFault? "cidr-nodes", ← fault?_readNetwork]
  refine Reading.fault?_bind fun _ _ => ?_
  rw [textFault?_of_readRecord isRecord networkFault? "cidr-pods", ← fault?_readNetwork]
  refine Reading.fault?_bind fun _ _ => ?_
  rw [textFault?_of_readRecord isRecord networkFault? "cidr-services", ← fault?_readNetwork]
  refine Reading.fault?_bind fun services isServices => ?_
  rw [textFault?_of_readRecord isRecord addressFault? "service-api", ← fault?_readAddress]
  refine Reading.fault?_bind fun api isApi => ?_
  rw [textFault?_of_readRecord isRecord addressFault? "service-dns", ← fault?_readAddress]
  refine Reading.fault?_bind fun dns isDns => ?_
  have servicesFound : Addressing.network? "cidr-services" block = some services := by
    rw [Addressing.network?, Addressing.text_of_readRecord isRecord "cidr-services"]
    exact readNetwork_eq_ok_iff.mp isServices
  have apiFound : Addressing.address? "service-api" block = some api := by
    rw [Addressing.address?, Addressing.text_of_readRecord isRecord "service-api"]
    exact readAddress_eq_ok_iff.mp isApi
  have dnsFound : Addressing.address? "service-dns" block = some dns := by
    rw [Addressing.address?, Addressing.text_of_readRecord isRecord "service-dns"]
    exact readAddress_eq_ok_iff.mp isDns
  rw [serviceFault?_of_parts servicesFound apiFound, serviceFault?_of_parts servicesFound dnsFound]
  refine Reading.fault?_bind fun _ _ => ?_
  exact Reading.fault?_bind fun _ _ => rfl

theorem fault?_readNameServers (block : Value) :
    Reading.fault? (readNameServers block) = firstOf Block.nameServers.checks block := by
  rw [Block.nameServers, firstOf_cons, firstOf_cons, firstOf_nil, Option.or_none, ← fault?_items]
  refine Reading.fault?_bind fun servers isRead => ?_
  rw [itemsFault?, items?_of_read isRead, Option.bind_some, Reading.fault?_mapM]
  simp only [fault?_readAddress]

theorem fault?_readHost (host : Value × Value) :
    Reading.fault? (readHost host) = addressFault? host.2.text := by
  rw [← fault?_readAddress, ← Option.or_none (o := Reading.fault? (readAddress host.2.text))]
  exact Reading.fault?_bind fun _ _ => rfl

theorem fault?_readBootstrap (block : Value) :
    Reading.fault? (readBootstrap block) = firstOf Block.dnsBootstrap.checks block := by
  rw [Block.dnsBootstrap, firstOf_cons, firstOf_cons, firstOf_nil, Option.or_none, ← fault?_entries]
  refine Reading.fault?_bind fun hosts isRead => ?_
  rw [valuesFault?, entries?_of_read isRead, Option.bind_some,
    ← Option.or_none (o := hosts.findSome? _)]
  simp only [← fault?_readHost, ← Reading.fault?_mapM]
  exact Reading.fault?_bind fun _ _ => rfl

theorem fault?_readAdmins (block : Value) :
    Reading.fault? (readAdmins block) = firstOf Block.rootAdmins.checks block := by
  rw [Block.rootAdmins, firstOf_cons, firstOf_cons, firstOf_nil, Option.or_none, readAdmins,
    Reading.fault?_mapError, stringsFault?, sequenceFault?, Shape.strings, Shape.items]
  cases block.items? with
  | none => rfl
  | some items =>
      have complete : (items.mapM Value.string?).isSome = items.all fun item => item.string?.isSome := by
        rw [Bool.eq_iff_iff, Option.isSome_iff_exists, List.all_eq_true]
        simp only [Reading.mapM_eq_some_iff, Reading.exists_forall₂_iff, Option.isSome_iff_exists]
      simp only [bind, Except.bind, Option.bind_some, ← complete]
      cases items.mapM Value.string? <;> rfl

theorem fault?_readNode (entry : Value) :
    Reading.fault? (Node.read entry) = firstOf nodeChecks entry := by
  simp only [nodeChecks, firstOf_cons, firstOf_nil]
  rw [← fault?_readRecord]
  refine Reading.fault?_bind fun record isRecord => ?_
  rw [shownFault?, Node.shown?_of_readRecord isRecord "ip", Option.bind_some, ← fault?_readAddress]
  refine Reading.fault?_bind fun _ _ => ?_
  rw [shownFault?, Node.shown?_of_readRecord isRecord "kind", Option.bind_some, ← fault?_readKind]
  exact Reading.fault?_bind fun _ _ => rfl

theorem firstOf_nodeChecks_eq_none_iff {entry : Value} :
    firstOf nodeChecks entry = none ↔ Node.Loadable entry := by
  rw [← fault?_readNode, Reading.fault?_eq_none_iff, Node.exists_read_iff]

private theorem supervisorsFault?_of_readNodes {block : Value} {nodes : List Node}
    (isRead : readNodes block = .ok nodes) :
    supervisorsFault? block = Reading.fault? (singleSupervisor nodes) := by
  obtain ⟨entries, isSequence, described⟩ := readNodes_eq_ok_iff.mp isRead
  have sameCount := countP_supervisors (described.imp fun _ _ both => both.2)
  rw [supervisorsFault?, isSequence, Option.bind_some, sameCount, singleSupervisor]
  by_cases single : nodes.countP Node.isSupervisor ≤ 1
  · rw [if_pos single, dif_pos single, Reading.fault?_ok]
  · rw [if_neg single, dif_neg single, Reading.fault?_error]

/-- The supervisors are counted after all nodes are read. -/
theorem fault?_readNodes_bind {β : Type} {block : Value} {next : List Node → Except Fault β}
    (follows : ∀ nodes, Reading.fault? (next nodes) = Reading.fault? (singleSupervisor nodes)) :
    Reading.fault? (readNodes block >>= next) = firstOf Block.nodes.checks block := by
  have entriesFault : Reading.fault? (readNodes block) =
      (sequenceFault? "nodes" block).or (itemsFault? (firstOf nodeChecks) block) := by
    rw [← fault?_items]
    refine Reading.fault?_bind fun entries isRead => ?_
    rw [itemsFault?, items?_of_read isRead, Option.bind_some, Reading.fault?_mapM]
    simp only [fault?_readNode]
  rw [Block.nodes, firstOf_cons, firstOf_cons, firstOf_cons, firstOf_nil, Option.or_none,
    ← Option.or_assoc, ← entriesFault]
  refine Reading.fault?_bind fun nodes isRead => ?_
  rw [follows, supervisorsFault?_of_readNodes isRead]

/-!
## Documents
-/

/-- A document ends in the fault of the first check that it does not pass. -/
theorem fault?_read (document : Value) : Reading.fault? (read document) = firstFault? document := by
  rw [firstFault?, ← fault?_readRecord]
  refine Reading.fault?_bind fun root isRoot => ?_
  have fault (block : Block) (expected : block.key ∈ shape.keys) :
      block.fault? document = firstOf block.checks (root.value block.key expected) := by
    rw [Block.fault?, field?_of_root isRoot block.key expected, Option.bind_some]
  simp only [Block.all, findSome?_blocks_cons, List.findSome?_nil, Option.or_none]
  rw [fault .cluster (by decide), ← fault?_readCluster]
  refine Reading.fault?_bind fun _ _ => ?_
  rw [fault .addresses (by decide), ← fault?_readAddressing]
  refine Reading.fault?_bind fun _ _ => ?_
  rw [fault .nameServers (by decide), ← fault?_readNameServers]
  refine Reading.fault?_bind fun _ _ => ?_
  rw [fault .dnsBootstrap (by decide), ← fault?_readBootstrap]
  refine Reading.fault?_bind fun _ _ => ?_
  rw [fault .rootAdmins (by decide), ← fault?_readAdmins]
  refine Reading.fault?_bind fun _ _ => ?_
  rw [fault .nodes (by decide)]
  refine fault?_readNodes_bind fun nodes => ?_
  rw [← Option.or_none (o := Reading.fault? (singleSupervisor nodes))]
  exact Reading.fault?_bind fun _ _ => rfl

theorem read_eq_error_iff {document : Value} {fault : Fault} :
    read document = .error fault ↔ firstFault? document = some fault := by
  rw [← Reading.fault?_eq_some_iff, fault?_read]

theorem firstFault?_of_read {document : Value} {setup : Setup} (isRead : read document = .ok setup) :
    firstFault? document = none := by
  rw [← fault?_read, isRead, Reading.fault?_ok]

/-- A document that is read passes the checks of every block. -/
theorem Block.fault?_of_read {document : Value} {setup : Setup} (isRead : read document = .ok setup)
    {block : Block} (listed : block ∈ Block.all) : block.fault? document = none := by
  have passed := firstFault?_of_read isRead
  rw [firstFault?, Option.or_eq_none_iff] at passed
  exact List.findSome?_eq_none_iff.mp passed.2 block listed

theorem Block.fault?_congr {left right : Value} {block : Block}
    (agree : left.field? block.key = right.field? block.key) :
    block.fault? left = block.fault? right := by
  rw [Block.fault?, agree, Block.fault?]

/-- What comes after the first block with a fault does not matter. -/
theorem firstFault?_of_block {document : Value} (accepts : shape.Accepts document)
    {before after : List Block} {failing : Block} (order : Block.all = before ++ failing :: after)
    (passed : ∀ block ∈ before, block.fault? document = none) {fault : Fault}
    (fails : failing.fault? document = some fault) : firstFault? document = some fault := by
  rw [firstFault?, shapeFault?_eq_none_iff.mpr accepts, Option.none_or, order, List.findSome?_append,
    List.findSome?_eq_none_iff.mpr passed, Option.none_or, findSome?_blocks_cons, fails, Option.some_or]

/-- The order of the blocks in the document does not matter. -/
theorem firstFault?_perm {left right : Entries} (distinct : left.Distinct) (perm : left.Perm right)
    (fits : shape.Fits left) : firstFault? (.mapping left) = firstFault? (.mapping right) := by
  have accepts : shape.Accepts (.mapping left) := ⟨left, rfl, fits⟩
  have accepts' : shape.Accepts (.mapping right) := ⟨right, rfl, fits.perm distinct perm⟩
  have sameBlocks : Block.fault? (.mapping left) = Block.fault? (.mapping right) := by
    funext block
    exact Block.fault?_congr (distinct.get?_perm perm block.key)
  rw [firstFault?, firstFault?, shapeFault?_eq_none_iff.mpr accepts, shapeFault?_eq_none_iff.mpr accepts',
    sameBlocks]

/-- **First failure.** A document that is not read ends in the fault of the first check that it does not
pass. So two documents that agree up to the first block with a fault end in the same fault, whatever
stands in the later blocks, and the order in which the blocks stand in a document does not matter. -/
theorem read_first_failure :
    (∀ document fault, read document = .error fault ↔ firstFault? document = some fault) ∧
      (∀ {left right : Value} {before after : List Block} {failing : Block} {fault : Fault},
        shape.Accepts left → shape.Accepts right → Block.all = before ++ failing :: after →
        (∀ block ∈ before, block.fault? left = none) → failing.fault? left = some fault →
        (∀ block ∈ before ++ [failing], left.field? block.key = right.field? block.key) →
          read left = .error fault ∧ read right = .error fault) ∧
      ∀ {left right : Entries} {fault : Fault},
        left.Distinct → left.Perm right → shape.Fits left →
          (read (.mapping left) = .error fault ↔ read (.mapping right) = .error fault) := by
  refine ⟨fun _ _ => read_eq_error_iff, ?_, ?_⟩
  · intro left right before after failing fault accepts accepts' order passed fails agree
    have same (block : Block) (member : block ∈ before ++ [failing]) :
        block.fault? right = block.fault? left := (Block.fault?_congr (agree block member)).symm
    have passed' : ∀ block ∈ before, block.fault? right = none := fun block member =>
      (same block (List.mem_append_left _ member)).trans (passed block member)
    have fails' : failing.fault? right = some fault := (same failing (by simp)).trans fails
    exact ⟨read_eq_error_iff.mpr (firstFault?_of_block accepts order passed fails),
      read_eq_error_iff.mpr (firstFault?_of_block accepts' order passed' fails')⟩
  · intro left right fault distinct perm fits
    rw [read_eq_error_iff, read_eq_error_iff, firstFault?_perm distinct perm fits]

/-- A name server that is no address is reported before a node that is no mapping, also where the nodes
stand first. -/
theorem read_first_failure_sample :
    read (sample [.string "nowhere"] []) = .error (.notAddress "nowhere") ∧
      read (sample [.string "nowhere"] [.null]) = .error (.notAddress "nowhere") ∧
      read (.mapping (sampleEntries [.string "nowhere"] [.null]).reverse) =
        .error (.notAddress "nowhere") := by
  have accepts (nodes : List Value) (fits : shapeFault? shape (sample [.string "nowhere"] nodes) = none) :=
    shapeFault?_eq_none_iff.mp fits
  have order : Block.all = [.cluster, .addresses] ++
    Block.nameServers :: [.dnsBootstrap, .rootAdmins, .nodes] := rfl
  have agree : ∀ block ∈ [Block.cluster, .addresses] ++ [Block.nameServers],
      (sample [.string "nowhere"] []).field? block.key =
        (sample [.string "nowhere"] [.null]).field? block.key := by
    intro block member
    simp only [List.cons_append, List.nil_append, List.mem_cons, List.not_mem_nil, or_false] at member
    rcases member with rfl | rfl | rfl <;> rfl
  have both : read (sample [.string "nowhere"] []) = .error (.notAddress "nowhere") ∧
      read (sample [.string "nowhere"] [.null]) = .error (.notAddress "nowhere") :=
    read_first_failure.2.1 (accepts [] (by decide)) (accepts [.null] (by decide)) order
      (by decide +kernel) (by decide +kernel) agree
  obtain ⟨entries, isMapping, fits⟩ := accepts [.null] (by decide)
  cases isMapping
  exact ⟨both.1, both.2, (read_first_failure.2.2 (by decide) (List.reverse_perm _).symm fits).mp both.2⟩

end ClusterConfig.Setup
