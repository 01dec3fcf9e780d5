import ClusterConfig.Proofs.Setup.FirstFault
import ClusterConfig.Proofs.Setup.UnreadEntries

set_option autoImplicit false

/-!
# Single faults

What a document is refused for when one of its mappings of a fixed shape is changed and everything else is
left as it is: for the fault of this mapping. In particular a key that is taken away is named as missing, and
a key that is put in is named as unexpected.
-/

namespace ClusterConfig

open Yaml

namespace Yaml

namespace Entries

variable {entries : Entries} {key other : String}

def without (key : String) (entries : Entries) : Entries :=
  entries.filter fun entry => !entry.1.isString key

theorem get?_without_self : (entries.without key).get? key = none := by
  rw [get?_eq_none_iff]
  intro entry member isKey
  have kept := (List.mem_filter.mp member).2
  rw [isKey] at kept
  simp [Value.isString] at kept

theorem get?_without_of_ne (differs : other ≠ key) :
    (entries.without key).get? other = entries.get? other := by
  rw [get?, get?, without, List.find?_filter]
  congr 2
  funext entry
  cases isOther : entry.1.isString other with
  | false => simp
  | true =>
      rw [Value.isString_iff.mp isOther]
      simp [Value.isString, differs]

end Entries

namespace Value

variable {key other : String} {change : Value → Value} {value : Value} {index : Nat}

def changeItem (index : Nat) (change : Value → Value) : Value → Value
  | .tagged tag value => .tagged tag (value.changeItem index change)
  | .sequence items => .sequence (items.modify index change)
  | value => value

theorem items?_changeItem (index : Nat) (change : Value → Value) (value : Value) :
    (value.changeItem index change).items? = value.items?.map fun items => items.modify index change := by
  induction value using untagged.induct with
  | case1 tag value ih => exact ih
  | case2 value plain =>
      cases value with
      | tagged tag value => exact absurd rfl (plain tag value)
      | _ => rfl

/-- Change what stands under a key, and leave what stands under others. -/
def changeUnder (key : String) (change : Value → Value) (other content : Value) : Value :=
  if other.isString key then change content else content

def changeField (key : String) (change : Value → Value) (value : Value) : Value :=
  value.changeEntries fun entries => entries.map fun entry => (entry.1, changeUnder key change entry.1 entry.2)

theorem field?_changeField (key other : String) (change : Value → Value) (value : Value) :
    (value.changeField key change).field? other =
      (value.field? other).map (changeUnder key change (.string other)) := by
  rw [changeField, field?, entries?_changeEntries, field?]
  cases value.entries? with
  | none => rfl
  | some entries => exact Entries.get?_map (changeUnder key change) other entries

theorem field?_changeField_self (key : String) (change : Value → Value) (value : Value) :
    (value.changeField key change).field? key = (value.field? key).map change := by
  have under : changeUnder key change (.string key) = change := by
    funext content
    simp [changeUnder, isString]
  rw [field?_changeField, under]

theorem fieldEntries?_changeField (key : String) (next : Entries → Entries) (value : Value) :
    (value.changeField key (changeEntries next)).fieldEntries? key = (value.fieldEntries? key).map next := by
  rw [fieldEntries?, field?_changeField_self, fieldEntries?]
  cases value.field? key with
  | none => rfl
  | some content => exact entries?_changeEntries next content

theorem field?_changeField_of_ne (differs : other ≠ key) :
    (value.changeField key change).field? other = value.field? other := by
  have under : changeUnder key change (.string other) = id := by
    funext content
    simp [changeUnder, isString, differs]
  rw [field?_changeField, under, Option.map_id_fun, id]

end Value

end Yaml

namespace Shape

variable {α : Type} {shape : Shape α} {entries : Entries}

private theorem find?_of_unique {β : Type} {items : List β} {holds : β → Bool} {item : β}
    (member : item ∈ items) (held : holds item = true) (unique : ∀ other ∈ items, holds other = true → other = item) :
    items.find? holds = some item := by
  cases found : items.find? holds with
  | none => exact absurd held (List.find?_eq_none.mp found item member)
  | some other =>
      have same := unique other (List.mem_of_find?_eq_some found) (List.find?_some found)
      rw [same]

theorem Accepts.fault?_eq_none {value : Value} (accepts : shape.Accepts value)
    (isMapping : value.entries? = some entries) : shape.fault? entries = none := by
  obtain ⟨_, isMapping', fits⟩ := accepts
  cases isMapping.symm.trans isMapping'
  exact fault?_eq_none_iff.mpr fits

/-- Without one of its keys a mapping has all other expected keys, and no others. -/
theorem Fits.fault?_without (fits : shape.Fits entries) {key : String} (expected : key ∈ shape.keys) :
    shape.fault? (entries.without key) = some (.missingKey key) := by
  have allExpected : ((entries.without key).find? fun entry => !shape.expects entry.1) = none := by
    refine List.find?_eq_none.mpr fun entry member => ?_
    have isExpected := expects_iff.mpr (fits.expected entry (List.mem_filter.mp member).1)
    simp [isExpected]
  have missing : (shape.keys.find? fun name => ((entries.without key).get? name).isNone) = some key := by
    refine find?_of_unique expected (by rw [Entries.get?_without_self]; rfl) fun other listed isMissing => ?_
    by_contra differs
    rw [Entries.get?_without_of_ne differs] at isMissing
    have present := fits.present other listed
    rw [Option.isNone_iff_eq_none.mp isMissing] at present
    cases present
  rw [fault?, allExpected, missing]
  rfl

theorem Fits.fault?_insertIdx (fits : shape.Fits entries) {position : Nat}
    (within : position ≤ entries.length) {key value : Value} (unexpected : ∀ name ∈ shape.keys, key.string? ≠ some name) :
    shape.fault? (entries.insertIdx position (key, value)) = some (.unexpectedKey key.text) := by
  have notExpected : shape.expects key = false := by
    refine Bool.eq_false_iff.mpr fun isExpected => ?_
    obtain ⟨name, listed, isName⟩ := expects_iff.mp isExpected
    exact unexpected name listed isName
  have found : ((entries.insertIdx position (key, value)).find? fun entry => !shape.expects entry.1) =
      some (key, value) := by
    refine find?_of_unique ((List.mem_insertIdx within).mpr (.inl rfl)) (by simp [notExpected]) ?_
    intro entry member isUnexpected
    rcases (List.mem_insertIdx within).mp member with same | present
    · exact same
    · have isExpected := expects_iff.mpr (fits.expected entry present)
      simp [isExpected] at isUnexpected
  rw [fault?, found]
  rfl

end Shape

namespace Setup

variable {document : Value} {setup : Setup} {entries : Entries} {fault : Shape.Fault}

theorem shapeFault?_changeEntries {α : Type} {shape : Shape α} {value : Value} {change : Entries → Entries}
    (isMapping : value.entries? = some entries) (fails : shape.fault? (change entries) = some fault) :
    shapeFault? shape (value.changeEntries change) = some (.shape fault) := by
  rw [shapeFault?, Value.entries?_changeEntries, isMapping, Option.map_some]
  simp only [fails, Option.map_some]

theorem findSome?_modify {values : List Value} {check : Value → Option Fault} {index : Nat} {value : Value}
    {change : Value → Value} {fault : Fault} (passes : ∀ other ∈ values, check other = none)
    (atIndex : values[index]? = some value) (fails : check (change value) = some fault) :
    (values.modify index change).findSome? check = some fault := by
  obtain ⟨within, isValue⟩ := List.getElem?_eq_some_iff.mp atIndex
  have before : (values.take index).findSome? check = none :=
    List.findSome?_eq_none_iff.mpr fun other member => passes other (List.mem_of_mem_take member)
  rw [List.modify_eq_take_cons_drop within, isValue, List.findSome?_append, before, Option.none_or,
    List.findSome?_cons, fails]

theorem accepts_changeField (accepts : shape.Accepts document) (key : String) (change : Value → Value) :
    shape.Accepts (document.changeField key change) := by
  obtain ⟨entries, isMapping, fits⟩ := accepts
  refine ⟨_, by rw [Value.changeField, Value.entries?_changeEntries, isMapping, Option.map_some], ?_⟩
  exact fits_map fits (Value.changeUnder key change)

theorem exists_field (accepts : shape.Accepts document) {block : Block} (listed : block ∈ Block.all) :
    ∃ value, document.field? block.key = some value := by
  have expected : ∀ block ∈ Block.all, block.key ∈ shape.keys := by decide
  obtain ⟨entries, isMapping, fits⟩ := accepts
  obtain ⟨value, found⟩ := Option.isSome_iff_exists.mp (fits.present block.key (expected block listed))
  exact ⟨value, by rw [Value.field?, isMapping, Option.bind_some, found]⟩

/-- A document that is read, but for one block, is refused for the first fault of this block. -/
theorem read_changeField (isRead : read document = .ok setup) (block : Block) (listed : block ∈ Block.all)
    {change : Value → Value} {fault : Fault}
    (fails : ∀ value, document.field? block.key = some value →
      firstOf block.checks (change value) = some fault) :
    read (document.changeField block.key change) = .error fault := by
  obtain ⟨before, after, order⟩ := List.append_of_mem listed
  have accepts := (loadable_of_read isRead).1.root
  have keysDiffer : ∀ earlier ∈ before, earlier.key ≠ block.key := by
    have distinct : (Block.all.map Block.key).Nodup := by decide
    rw [order, List.map_append, List.map_cons] at distinct
    intro earlier member same
    refine (List.nodup_append.mp distinct).2.2 earlier.key (List.mem_map_of_mem member) block.key ?_ same
    exact List.mem_cons_self
  -- The blocks that are checked before are found under other keys, so they are as they were.
  have passed : ∀ earlier ∈ before, earlier.fault? (document.changeField block.key change) = none := by
    intro earlier member
    rw [Block.fault?_congr (Value.field?_changeField_of_ne (keysDiffer earlier member))]
    exact Block.fault?_of_read isRead (by rw [order]; exact List.mem_append_left _ member)
  have failing : block.fault? (document.changeField block.key change) = some fault := by
    obtain ⟨value, found⟩ := exists_field accepts listed
    rw [Block.fault?, Value.field?_changeField_self, found, Option.map_some, Option.bind_some]
    exact fails value found
  have accepts' := accepts_changeField accepts block.key change
  exact read_eq_error_iff.mpr (firstFault?_of_block accepts' order passed failing)

/-- The same for a block that is checked for its shape first of all. -/
theorem read_changeShaped (isRead : read document = .ok setup) (block : Block) (listed : block ∈ Block.all)
    {α : Type} {shape : Shape α} {others : List (Value → Option Fault)}
    (shapeFirst : block.checks = shapeFault? shape :: others)
    (stands : document.fieldEntries? block.key = some entries) {next : Entries → Entries}
    (fails : shape.fault? (next entries) = some fault) :
    read (document.changeField block.key (Value.changeEntries next)) = .error (.shape fault) := by
  refine read_changeField isRead block listed fun value found => ?_
  rw [Value.fieldEntries?, found, Option.bind_some] at stands
  rw [shapeFirst, firstOf_cons, shapeFault?_changeEntries stands fails]
  rfl

/-- The same for one of the nodes. -/
theorem read_changeNode (isRead : read document = .ok setup) {nodes : List Value}
    (inNodes : document.fieldItems? "nodes" = some nodes) {index : Nat} {node : Value}
    (atIndex : nodes[index]? = some node) {change : Value → Value} {fault : Fault}
    (fails : shapeFault? Node.shape (change node) = some fault) :
    read (document.changeField "nodes" (Value.changeItem index change)) = .error fault := by
  have passes : ∀ other ∈ nodes, firstOf nodeChecks other = none := by
    obtain ⟨_, inNodes', areNodes, _⟩ := (loadable_of_read isRead).1.nodes
    cases inNodes.symm.trans inNodes'
    intro other member
    exact firstOf_nodeChecks_eq_none_iff.mpr (areNodes other member)
  have failing : firstOf nodeChecks (change node) = some fault := by
    rw [nodeChecks, firstOf_cons, fails]
    rfl
  refine read_changeField isRead .nodes (by simp [Block.all]) fun value found => ?_
  have areItems : value.items? = some nodes := by
    rw [Value.fieldItems?, show document.field? "nodes" = some value from found] at inNodes
    exact inNodes
  rw [Block.nodes, firstOf_cons, firstOf_cons, sequenceFault?, itemsFault?, Value.items?_changeItem, areItems,
    Option.map_some, Option.bind_some, findSome?_modify passes atIndex failing]
  rfl

/-!
## Places
-/

/-- Where a mapping of a fixed shape stands in a document. -/
inductive Place where
  | root
  | cluster
  | addresses
  | node (index : Nat)
deriving DecidableEq

namespace Place

/-- The shape of the mapping at the place. -/
def shaped : Place → (α : Type) × Shape α
  | root => ⟨_, shape⟩
  | cluster => ⟨_, Cluster.shape⟩
  | addresses => ⟨_, Addressing.shape⟩
  | node _ => ⟨_, Node.shape⟩

def keys (place : Place) : List String := place.shaped.2.keys

def fault? (place : Place) (entries : Entries) : Option Shape.Fault := place.shaped.2.fault? entries

def mapping? : Place → Value → Option Entries
  | root, document => document.entries?
  | cluster, document => document.fieldEntries? "cluster"
  | addresses, document => document.fieldEntries? "addresses"
  | node index, document =>
      ((document.fieldItems? "nodes").bind fun nodes => nodes[index]?).bind Value.entries?

/-- Change the mapping at the place, and nothing else. -/
def change (place : Place) (next : Entries → Entries) (document : Value) : Value :=
  match place with
  | root => document.changeEntries next
  | cluster => document.changeField "cluster" (Value.changeEntries next)
  | addresses => document.changeField "addresses" (Value.changeEntries next)
  | node index => document.changeField "nodes" (Value.changeItem index (Value.changeEntries next))

/-- Whether a document of the setup has the place. -/
def IsIn (setup : Setup) : Place → Prop
  | node index => index < setup.nodes.length
  | _ => True

theorem fault?_without {place : Place} (passes : place.fault? entries = none) {key : String}
    (expected : key ∈ place.keys) : place.fault? (entries.without key) = some (.missingKey key) :=
  (Shape.fault?_eq_none_iff.mp passes).fault?_without expected

theorem fault?_insertIdx {place : Place} (passes : place.fault? entries = none) {position : Nat}
    (within : position ≤ entries.length) {key value : Value}
    (unexpected : ∀ name ∈ place.keys, key.string? ≠ some name) :
    place.fault? (entries.insertIdx position (key, value)) = some (.unexpectedKey key.text) :=
  (Shape.fault?_eq_none_iff.mp passes).fault?_insertIdx within unexpected

/-- The mappings of a document that is read have no fault. -/
theorem fault?_of_read {place : Place} (isRead : read document = .ok setup)
    (stands : place.mapping? document = some entries) : place.fault? entries = none := by
  obtain ⟨root, ⟨cluster, inCluster, isCluster⟩, ⟨addresses, inAddresses, areAddresses⟩, _, _, _,
    nodes, inNodes, areNodes, _⟩ := (loadable_of_read isRead).1
  cases place with
  | root => exact root.fault?_eq_none stands
  | cluster =>
      rw [mapping?, Value.fieldEntries?, inCluster, Option.bind_some] at stands
      exact isCluster.fault?_eq_none stands
  | addresses =>
      rw [mapping?, Value.fieldEntries?, inAddresses, Option.bind_some] at stands
      exact areAddresses.fits.fault?_eq_none stands
  | node index =>
      rw [mapping?, inNodes, Option.bind_some] at stands
      obtain ⟨entry, atIndex, isMapping⟩ := Option.bind_eq_some_iff.mp stands
      exact (areNodes entry (List.mem_of_getElem? atIndex)).fits.fault?_eq_none isMapping

theorem exists_mapping {place : Place} (isRead : read document = .ok setup) (isIn : place.IsIn setup) :
    ∃ entries, place.mapping? document = some entries := by
  obtain ⟨loadable, describes⟩ := loadable_of_read isRead
  obtain ⟨root, ⟨cluster, inCluster, isCluster⟩, ⟨addresses, inAddresses, areAddresses⟩, _, _, _,
    nodes, inNodes, areNodes, _⟩ := loadable
  cases place with
  | root =>
      obtain ⟨entries, isMapping, _⟩ := root
      exact ⟨entries, isMapping⟩
  | cluster =>
      obtain ⟨entries, isMapping, _⟩ := isCluster
      exact ⟨entries, by rw [mapping?, Value.fieldEntries?, inCluster, Option.bind_some, isMapping]⟩
  | addresses =>
      obtain ⟨entries, isMapping, _⟩ := areAddresses.fits
      exact ⟨entries, by rw [mapping?, Value.fieldEntries?, inAddresses, Option.bind_some, isMapping]⟩
  | node index =>
      obtain ⟨_, inNodes', described⟩ := describes.nodes
      cases inNodes.symm.trans inNodes'
      have within : index < nodes.length := Nat.lt_of_lt_of_eq isIn described.length_eq.symm
      obtain ⟨entries, isMapping, _⟩ := (areNodes nodes[index] (List.getElem_mem within)).fits
      refine ⟨entries, ?_⟩
      rw [mapping?, inNodes, Option.bind_some, List.getElem?_eq_getElem within, Option.bind_some, isMapping]

theorem mapping?_change {place : Place} (next : Entries → Entries) (document : Value) :
    place.mapping? (place.change next document) = (place.mapping? document).map next := by
  cases place with
  | root => exact Value.entries?_changeEntries next document
  | cluster => exact Value.fieldEntries?_changeField "cluster" next document
  | addresses => exact Value.fieldEntries?_changeField "addresses" next document
  | node index =>
      rw [mapping?, change, Value.fieldItems?, Value.field?_changeField_self, mapping?, Value.fieldItems?]
      cases document.field? "nodes" with
      | none => rfl
      | some block =>
          simp only [Option.map_some, Option.bind_some, Value.items?_changeItem]
          cases block.items? with
          | none => rfl
          | some nodes =>
              simp only [Option.map_some, Option.bind_some, List.getElem?_modify_eq]
              cases nodes[index]? with
              | none => rfl
              | some entry => exact Value.entries?_changeEntries next entry

/-- A document that is read, but for the mapping at one place, is refused for the fault of this mapping. -/
theorem read_change {place : Place} (isRead : read document = .ok setup)
    (stands : place.mapping? document = some entries) {next : Entries → Entries}
    (fails : place.fault? (next entries) = some fault) :
    read (place.change next document) = .error (.shape fault) := by
  cases place with
  | root =>
      have refused : shapeFault? shape (document.changeEntries next) = some (.shape fault) :=
        shapeFault?_changeEntries stands fails
      rw [change, read_eq_error_iff, firstFault?, refused]
      rfl
  | cluster => exact read_changeShaped isRead .cluster (by simp [Block.all]) rfl stands fails
  | addresses => exact read_changeShaped isRead .addresses (by simp [Block.all]) rfl stands fails
  | node index =>
      obtain ⟨node, inDocument, isMapping⟩ := Option.bind_eq_some_iff.mp stands
      obtain ⟨nodes, inNodes, atIndex⟩ := Option.bind_eq_some_iff.mp inDocument
      exact read_changeNode isRead inNodes atIndex (shapeFault?_changeEntries isMapping fails)

end Place

/-- **Single faults.** In every mapping of a fixed shape of a document that is read, be it the document itself,
one of its blocks or the entry of any node, a key that is taken away is named as missing, and a key that is
put in anywhere is named as unexpected. -/
theorem single_fault_named (isRead : read document = .ok setup) :
    (∀ place : Place, place.IsIn setup → ∃ entries, place.mapping? document = some entries) ∧
    ∀ (place : Place) (entries : Entries), place.mapping? document = some entries →
      (∀ next, place.mapping? (place.change next document) = some (next entries)) ∧
      (∀ key ∈ place.keys,
        read (place.change (Entries.without key) document) = .error (.shape (.missingKey key))) ∧
      ∀ (position : Nat) (key value : Value), position ≤ entries.length →
        (∀ name ∈ place.keys, key.string? ≠ some name) →
        read (place.change (fun entries => entries.insertIdx position (key, value)) document) =
          .error (.shape (.unexpectedKey key.text)) := by
  constructor
  · intro place isIn
    exact Place.exists_mapping isRead isIn
  · intro place entries stands
    have passes := Place.fault?_of_read isRead stands
    refine ⟨?_, ?_, ?_⟩
    · intro next
      rw [Place.mapping?_change, stands, Option.map_some]
    · intro key expected
      exact Place.read_change isRead stands (Place.fault?_without passes expected)
    · intro position key value within unexpected
      exact Place.read_change isRead stands (Place.fault?_insertIdx passes within unexpected)

theorem single_fault_named_sample :
    let document := sample [] [sampleEntry "a" "10.0.0.1" "master", sampleEntry "b" "10.0.0.2" "worker"]
    (∃ setup, read document = .ok setup) ∧
      read (Place.change (.node 1) (Entries.without "ip") document) = .error (.shape (.missingKey "ip")) ∧
      read (Place.change .root (fun entries => entries.insertIdx 6 (.bool true, .null)) document) =
        .error (.shape (.unexpectedKey "true")) := by
  obtain ⟨setup, isRead, _⟩ := Reading.exists_ok_of_any
    (show (read (sample [] [sampleEntry "a" "10.0.0.1" "master",
        sampleEntry "b" "10.0.0.2" "worker"])).toOption.any (fun _ => true) = true by
      decide +kernel)
  obtain ⟨_, named⟩ := single_fault_named isRead
  refine ⟨⟨setup, isRead⟩, ?_, ?_⟩
  · exact (named (.node 1) _ rfl).2.1 "ip" (by decide)
  · refine (named .root _ rfl).2.2 6 (.bool true) .null (by decide) fun name _ isName => ?_
    cases isName

end Setup

end ClusterConfig
