import ClusterConfig.Proofs.Setup.Loading
import ClusterConfig.Proofs.Yaml.DistinctKeys
import Mathlib.Data.List.Nodup

set_option autoImplicit false

/-!
# Unread entries

A key is expected if its text is, but is looked up without a tag. So a mapping may pass its check with
entries that nothing reads, namely those with a tag on their keys, and with no others.
-/

namespace ClusterConfig

open Yaml

namespace Yaml

namespace Value

def isTagged : Value → Bool
  | .tagged _ _ => true
  | _ => false

theorem isTagged_of_isString {name : String} {value : Value} (isName : value.isString name = true) :
    value.isTagged = false := by
  rw [isString_iff.mp isName]
  rfl

theorem eq_string_of_string? {name : String} {value : Value} (isText : value.string? = some name)
    (plain : value.isTagged = false) : value = .string name := by
  cases value with
  | tagged => cases plain
  | string text =>
      cases isText
      rfl
  | _ => cases isText

def changeEntries (change : Entries → Entries) : Value → Value
  | .tagged tag value => .tagged tag (value.changeEntries change)
  | .mapping entries => .mapping (change entries)
  | value => value

def changeItems (change : Value → Value) : Value → Value
  | .tagged tag value => .tagged tag (value.changeItems change)
  | .sequence items => .sequence (items.map change)
  | value => value

theorem entries?_changeEntries (change : Entries → Entries) (value : Value) :
    (value.changeEntries change).entries? = value.entries?.map change := by
  induction value using untagged.induct with
  | case1 tag value ih => exact ih
  | case2 value plain =>
      cases value with
      | tagged tag value => exact absurd rfl (plain tag value)
      | _ => rfl

theorem items?_changeItems (change : Value → Value) (value : Value) :
    (value.changeItems change).items? = value.items?.map (List.map change) := by
  induction value using untagged.induct with
  | case1 tag value ih => exact ih
  | case2 value plain =>
      cases value with
      | tagged tag value => exact absurd rfl (plain tag value)
      | _ => rfl

end Value

namespace Entries

def untagged (entries : Entries) : Entries :=
  entries.filter fun entry => !entry.1.isTagged

theorem mem_untagged {entries : Entries} {entry : Value × Value} :
    entry ∈ entries.untagged ↔ entry ∈ entries ∧ entry.1.isTagged = false := by
  simp [untagged]

theorem length_untagged (entries : Entries) :
    entries.length = entries.untagged.length + entries.countP fun entry => entry.1.isTagged := by
  rw [untagged, ← List.countP_eq_length_filter, Nat.add_comm]
  simpa using List.length_eq_countP_add_countP (fun entry : Value × Value => entry.1.isTagged)

/-- No lookup finds an entry with a tag on its key. -/
theorem get?_untagged (name : String) (entries : Entries) :
    entries.untagged.get? name = entries.get? name := by
  rw [get?, get?, untagged, List.find?_filter]
  congr 2
  funext entry
  cases isName : entry.1.isString name with
  | true => simp [Value.isTagged_of_isString isName]
  | false => simp

theorem get?_map (change : Value → Value → Value) (name : String) (entries : Entries) :
    Entries.get? name (entries.map fun entry => (entry.1, change entry.1 entry.2)) =
      (entries.get? name).map (change (.string name)) := by
  rw [get?, get?, List.find?_map, Option.map_map, Option.map_map]
  cases found : entries.find? fun entry => entry.1.isString name with
  | none => simpa using found
  | some entry =>
      have isName : entry.1 = .string name := Value.isString_iff.mp (by simpa using List.find?_some found)
      simp [Function.comp_def, found, isName]

end Entries

end Yaml

namespace Shape

variable {α : Type} {shape : Shape α} {entries : Entries} {record : Record shape}

theorem Fits.untagged (fits : shape.Fits entries) : shape.Fits entries.untagged := by
  refine ⟨fun entry member => ?_, fun key expected => ?_, fun entry member => ?_⟩
  · exact fits.expected entry (Entries.mem_untagged.mp member).1
  · rw [Entries.get?_untagged]
    exact fits.present key expected
  · exact fits.acceptable entry (Entries.mem_untagged.mp member).1

theorem Fits.key_of_mem_untagged (fits : shape.Fits entries) {entry : Value × Value}
    (member : entry ∈ entries.untagged) : ∃ key ∈ shape.keys, entry.1 = .string key := by
  obtain ⟨inEntries, plain⟩ := Entries.mem_untagged.mp member
  obtain ⟨key, expected, isText⟩ := fits.expected entry inEntries
  exact ⟨key, expected, Value.eq_string_of_string? isText plain⟩

/-- Every expected key stands once among the keys without a tag, and no other key does. -/
theorem Fits.untagged_keys_perm (fits : shape.Fits entries) (distinctKeys : shape.keys.Nodup)
    (distinct : entries.Distinct) :
    (entries.untagged.map Prod.fst).Perm (shape.keys.map Value.string) := by
  have untaggedDistinct : entries.untagged.Pairwise fun earlier later => earlier.1 ≠ later.1 := by
    refine List.Pairwise.imp_of_mem ?_ (List.Pairwise.sublist List.filter_sublist distinct)
    intro earlier later _ inUntagged differ equal
    obtain ⟨key, _, isKey⟩ := fits.key_of_mem_untagged inUntagged
    simp [equal, isKey, Value.same] at differ
  refine (List.perm_ext_iff_of_nodup (List.pairwise_map.mpr untaggedDistinct)
    (distinctKeys.map fun _ _ => Value.string.inj)).mpr fun key => ?_
  rw [List.mem_map, List.mem_map]
  constructor
  · intro facts
    obtain ⟨entry, member, isKey⟩ := facts
    obtain ⟨name, expected, isName⟩ := fits.key_of_mem_untagged member
    exact ⟨name, expected, isName.symm.trans isKey⟩
  · intro facts
    obtain ⟨name, expected, isName⟩ := facts
    obtain ⟨value, found⟩ := Option.isSome_iff_exists.mp (fits.untagged.present name expected)
    exact ⟨_, Entries.mem_of_get? found, isName⟩

theorem Fits.length_eq (fits : shape.Fits entries) (distinctKeys : shape.keys.Nodup)
    (distinct : entries.Distinct) :
    entries.length = shape.keys.length + entries.countP fun entry => entry.1.isTagged := by
  have sameLength := (fits.untagged_keys_perm distinctKeys distinct).length_eq
  rw [List.length_map, List.length_map] at sameLength
  rw [← sameLength]
  exact entries.length_untagged

/-- There are as many entries as expected keys exactly if no key carries a tag. -/
theorem Fits.length_eq_iff (fits : shape.Fits entries) (distinctKeys : shape.keys.Nodup)
    (distinct : entries.Distinct) :
    entries.length = shape.keys.length ↔ ∀ entry ∈ entries, entry.1.isTagged = false := by
  rw [fits.length_eq distinctKeys distinct, Nat.add_eq_left, List.countP_eq_zero]
  simp

/-- The entries of a mapping that passed its check, as far as they are read. -/
structure Record.ReadsUntagged (record : Record shape) : Prop where
  /-- Every expected key is there once, without a tag. -/
  keys : (record.entries.untagged.map Prod.fst).Perm (shape.keys.map Value.string)
  /-- What stands under such a key is what is read there. -/
  values : ∀ entry ∈ record.entries.untagged, ∃ key, ∃ expected : key ∈ shape.keys,
    entry.1 = .string key ∧ shape.accept key entry.2 = some (record.value key expected)
  /-- All other keys have a tag in front of an expected key. -/
  others : ∀ entry ∈ record.entries, entry ∉ record.entries.untagged →
    entry.1.isTagged = true ∧ ∃ key ∈ shape.keys, entry.1.string? = some key
  /-- The others might as well not be there. -/
  unread : ∃ smaller, shape.check record.entries.untagged = .ok smaller ∧
    ∀ key expected, smaller.value key expected = record.value key expected

theorem exists_check_untagged (fits : shape.Fits record.entries) :
    ∃ smaller, shape.check record.entries.untagged = .ok smaller ∧
      ∀ key expected, smaller.value key expected = record.value key expected := by
  obtain ⟨smaller, checked⟩ := Reading.fault?_eq_none_iff.mp
    ((fault?_check shape record.entries.untagged).trans (fault?_eq_none_iff.mpr fits.untagged))
  refine ⟨smaller, checked, fun key expected => ?_⟩
  refine Option.some.inj ?_
  rw [← smaller.lookup?_eq_some expected, ← record.lookup?_eq_some expected, lookup?, lookup?,
    entries_of_check checked, Entries.get?_untagged]

theorem readsUntagged_of_check (distinctKeys : shape.keys.Nodup) (distinct : entries.Distinct)
    (checked : shape.check entries = .ok record) : record.ReadsUntagged := by
  obtain ⟨rfl, fits⟩ := check_eq_ok_iff.mp checked
  refine ⟨fits.untagged_keys_perm distinctKeys distinct, fun entry member => ?_,
    fun entry member isOther => ?_, exists_check_untagged fits⟩
  · obtain ⟨key, expected, isKey⟩ := fits.key_of_mem_untagged member
    have inEntries : (Value.string key, entry.2) ∈ record.entries :=
      isKey ▸ (Entries.mem_untagged.mp member).1
    refine ⟨key, expected, isKey, ?_⟩
    rw [← record.lookup?_eq_some expected, lookup?, distinct.get?_eq_some_iff.mpr inEntries,
      Option.bind_some]
  · have tagged : entry.1.isTagged = true := by
      simpa [Entries.mem_untagged, member] using isOther
    exact ⟨tagged, fits.expected entry member⟩

end Shape

namespace Yaml.Value

/-- A value without those entries of its mapping that have a tag on their keys. -/
def stripped (value : Value) : Value := value.changeEntries Entries.untagged

theorem field?_stripped (key : String) (value : Value) : value.stripped.field? key = value.field? key := by
  rw [stripped, field?, entries?_changeEntries, field?]
  cases value.entries? with
  | none => rfl
  | some entries => exact entries.get?_untagged key

theorem fieldText?_stripped (key : String) (value : Value) :
    value.stripped.fieldText? key = value.fieldText? key := by
  rw [fieldText?, field?_stripped, fieldText?]

theorem hasDistinctKeys_of_field? {key : String} {value content : Value}
    (distinct : value.hasDistinctKeys = true) (found : value.field? key = some content) :
    content.hasDistinctKeys = true := by
  obtain ⟨entries, isMapping, inEntries⟩ := Option.bind_eq_some_iff.mp found
  exact (distinct_of_entries? distinct isMapping).2 _ (Entries.mem_of_get? inEntries)

end Yaml.Value

theorem Shape.Accepts.stripped {α : Type} {shape : Shape α} {value : Value}
    (accepts : shape.Accepts value) : shape.Accepts value.stripped := by
  obtain ⟨entries, isMapping, fits⟩ := accepts
  exact ⟨entries.untagged, by rw [Value.stripped, Value.entries?_changeEntries, isMapping]; rfl,
    fits.untagged⟩

theorem Cluster.Describes.stripped {block : Value} {cluster : Cluster}
    (describes : Describes block cluster) : Describes block.stripped cluster := by
  obtain ⟨externalDomain, internalDomain, etcdToken, realm, source, domain, emailDomain⟩ := describes
  constructor <;> rwa [Value.fieldText?_stripped]

theorem Addressing.Describes.stripped {block : Value} {addressing : Addressing}
    (describes : Describes block addressing) : Describes block.stripped addressing := by
  obtain ⟨nodes, pods, services, api, dns⟩ := describes
  simp only [network?, address?] at nodes pods services api dns
  constructor <;> simpa only [network?, address?, Value.fieldText?_stripped]

theorem Node.Describes.stripped {entry : Value} {node : Node} (describes : Describes entry node) :
    Describes entry.stripped node := by
  obtain ⟨hostname, address, kind⟩ := describes
  simp only [shown?] at hostname address kind
  constructor <;> simpa only [shown?, Value.field?_stripped]

namespace Setup

/-- A block of the document, under its key, without the entries that have a tag on their keys. -/
def strippedBlock (key block : Value) : Value :=
  if key.isString "cluster" || key.isString "addresses" then block.stripped
  else if key.isString "nodes" then block.changeItems Value.stripped
  else block

/-- A document without the entries that have a tag on their keys, in all mappings of a fixed shape. -/
def withoutTaggedKeys (document : Value) : Value :=
  document.changeEntries fun entries =>
    entries.untagged.map fun entry => (entry.1, strippedBlock entry.1 entry.2)

/-- The mappings of a fixed shape in a document, each with the keys that are expected there. -/
def shapedMappings (document : Value) : List (List String × Value) :=
  (shape.keys, document) ::
    (document.field? "cluster").toList.map (fun block => (Cluster.shape.keys, block)) ++
    (document.field? "addresses").toList.map (fun block => (Addressing.shape.keys, block)) ++
    ((document.fieldItems? "nodes").getD []).map fun entry => (Node.shape.keys, entry)

theorem field?_withoutTaggedKeys (key : String) (document : Value) :
    (withoutTaggedKeys document).field? key =
      (document.field? key).map (strippedBlock (.string key)) := by
  rw [withoutTaggedKeys, Value.field?, Value.entries?_changeEntries, Value.field?]
  cases document.entries? with
  | none => rfl
  | some entries =>
      simp only [Option.map_some, Option.bind_some]
      rw [Entries.get?_map, Entries.get?_untagged]

/-- What stands under the keys of a document does not matter for its own shape. -/
theorem fits_map {entries : Entries} (fits : shape.Fits entries) (change : Value → Value → Value) :
    shape.Fits (entries.map fun entry => (entry.1, change entry.1 entry.2)) := by
  refine ⟨?_, fun key expected => ?_, fun _ _ => rfl⟩
  · intro entry member
    obtain ⟨entry, inEntries, rfl⟩ := List.mem_map.mp member
    exact fits.expected entry inEntries
  · rw [Entries.get?_map, Option.isSome_map]
    exact fits.present key expected

theorem accepts_withoutTaggedKeys {document : Value} (accepts : shape.Accepts document) :
    shape.Accepts (withoutTaggedKeys document) := by
  obtain ⟨entries, isMapping, fits⟩ := accepts
  refine ⟨_, by rw [withoutTaggedKeys, Value.entries?_changeEntries, isMapping, Option.map_some], ?_⟩
  exact fits_map fits.untagged strippedBlock

/-- The entries that have a tag on their keys do not take part in what a document is read as. -/
theorem read_withoutTaggedKeys {document : Value} {setup : Setup} (isRead : read document = .ok setup) :
    read (withoutTaggedKeys document) = .ok setup := by
  obtain ⟨accepts, ⟨cluster, inCluster, isCluster⟩, ⟨addresses, inAddresses, isAddressing⟩,
    ⟨servers, inServers, isServers⟩, ⟨bootstrap, inBootstrap, isBootstrap⟩,
    ⟨admins, inAdmins, isAdmins⟩, nodes, inNodes, isNodes⟩ := read_eq_ok_iff.mp isRead
  refine read_eq_ok_iff.mpr ⟨accepts_withoutTaggedKeys accepts, ⟨cluster.stripped, ?_, ?_⟩,
    ⟨addresses.stripped, ?_, ?_⟩, ⟨servers, ?_, isServers⟩, ⟨bootstrap, ?_, isBootstrap⟩,
    ⟨admins, ?_, isAdmins⟩, ⟨nodes.changeItems Value.stripped, ?_, ?_⟩⟩
  · rw [field?_withoutTaggedKeys, inCluster]
    rfl
  · obtain ⟨fits, describes⟩ := Cluster.read_eq_ok_iff.mp isCluster
    exact Cluster.read_eq_ok_iff.mpr ⟨fits.stripped, describes.stripped⟩
  · rw [field?_withoutTaggedKeys, inAddresses]
    rfl
  · obtain ⟨fits, describes⟩ := Addressing.read_eq_ok_iff.mp isAddressing
    exact Addressing.read_eq_ok_iff.mpr ⟨fits.stripped, describes.stripped⟩
  · rw [field?_withoutTaggedKeys, inServers]
    rfl
  · rw [field?_withoutTaggedKeys, inBootstrap]
    rfl
  · rw [field?_withoutTaggedKeys, inAdmins]
    rfl
  · rw [field?_withoutTaggedKeys, inNodes]
    rfl
  · obtain ⟨entries, isSequence, described⟩ := readNodes_eq_ok_iff.mp isNodes
    refine readNodes_eq_ok_iff.mpr ⟨entries.map Value.stripped, ?_, ?_⟩
    · rw [Value.items?_changeItems, isSequence, Option.map_some]
    · refine List.forall₂_map_left_iff.mpr (described.imp fun entry node both => ?_)
      exact ⟨both.1.stripped, both.2.stripped⟩

/-- A mapping has the expected keys, each once without a tag, and further entries only with a tag. -/
def HasKeys (keys : List String) (value : Value) : Prop :=
  ∃ entries, value.entries? = some entries ∧
    (entries.untagged.map Prod.fst).Perm (keys.map Value.string) ∧
    (entries.length = keys.length ↔ ∀ entry ∈ entries, entry.1.isTagged = false)

theorem hasKeys_of_accepts {α : Type} {shape : Shape α} {value : Value} (accepts : shape.Accepts value)
    (distinctKeys : shape.keys.Nodup) (distinct : value.hasDistinctKeys = true) :
    HasKeys shape.keys value := by
  obtain ⟨entries, isMapping, fits⟩ := accepts
  have entriesDistinct := (Value.distinct_of_entries? distinct isMapping).1
  exact ⟨entries, isMapping, fits.untagged_keys_perm distinctKeys entriesDistinct,
    fits.length_eq_iff distinctKeys entriesDistinct⟩

theorem hasKeys_of_read {document : Value} {setup : Setup} (distinct : document.hasDistinctKeys = true)
    (isRead : read document = .ok setup) :
    ∀ mapping ∈ shapedMappings document, HasKeys mapping.1 mapping.2 := by
  obtain ⟨accepts, ⟨cluster, inCluster, isCluster⟩, ⟨addresses, inAddresses, isAddressing⟩, _, _, _,
    nodes, inNodes, isNodes⟩ := read_eq_ok_iff.mp isRead
  obtain ⟨entries, isSequence, described⟩ := readNodes_eq_ok_iff.mp isNodes
  have inDocument : document.fieldItems? "nodes" = some entries := by
    rw [Value.fieldItems?, inNodes, Option.bind_some, isSequence]
  intro mapping member
  simp only [shapedMappings, inCluster, inAddresses, inDocument, Option.toList_some, List.map_cons,
    List.map_nil, Option.getD_some, List.mem_append, List.mem_cons, List.mem_map, List.not_mem_nil,
    or_false] at member
  rcases member with ((rfl | rfl) | rfl) | ⟨entry, inEntries, rfl⟩
  · exact hasKeys_of_accepts accepts (by decide) distinct
  · exact hasKeys_of_accepts (Cluster.read_eq_ok_iff.mp isCluster).1 (by decide)
      (Value.hasDistinctKeys_of_field? distinct inCluster)
  · exact hasKeys_of_accepts (Addressing.read_eq_ok_iff.mp isAddressing).1 (by decide)
      (Value.hasDistinctKeys_of_field? distinct inAddresses)
  · have entryDistinct : entry.hasDistinctKeys = true :=
      Value.distinct_of_items? (Value.hasDistinctKeys_of_field? distinct inNodes) isSequence
        entry inEntries
    obtain ⟨node, both⟩ := Reading.exists_forall₂_iff.mp ⟨_, described⟩ entry inEntries
    exact hasKeys_of_accepts both.1 (by decide) entryDistinct

/-- **Unread entries.** Of a mapping that passes its check those entries are read whose keys have no tag,
each expected key once; so no entry is ignored exactly if no key has a tag. In a document that is read
this holds for every mapping of a fixed shape: what stands under the expected keys makes up the setup,
and nothing else of these mappings is read. -/
theorem untagged_entries_read {α : Type} (shape : Shape α) (entries : Entries) (document : Value) :
    (shape.keys.Nodup → entries.Distinct → ∀ record, shape.check entries = .ok record →
      record.entries = entries ∧ record.ReadsUntagged ∧
      (entries.length = shape.keys.length ↔ ∀ entry ∈ entries, entry.1.isTagged = false)) ∧
      (document.hasDistinctKeys = true → ∀ setup, read document = .ok setup →
        (∀ mapping ∈ shapedMappings document, HasKeys mapping.1 mapping.2) ∧
        Describes document setup ∧ read (withoutTaggedKeys document) = .ok setup) := by
  constructor
  · intro distinctKeys distinct record checked
    obtain ⟨same, fits⟩ := Shape.check_eq_ok_iff.mp checked
    exact ⟨same, Shape.readsUntagged_of_check distinctKeys distinct checked,
      fits.length_eq_iff distinctKeys distinct⟩
  · intro distinct setup isRead
    exact ⟨hasKeys_of_read distinct isRead, (loadable_of_read isRead).2, read_withoutTaggedKeys isRead⟩

/-- The entries of a node that names two addresses, one under a tagged key. -/
def twoAddresses : Entries :=
  [(.string "hostname", .string "node"), (.string "ip", .string "10.0.0.1"),
    (.tagged "!t" (.string "ip"), .string "10.0.0.2"), (.string "kind", .string "master")]

private theorem check_twoAddresses : ∃ record, Node.shape.check twoAddresses = .ok record :=
  Reading.fault?_eq_none_iff.mp (by decide)

theorem untagged_entries_read_twoAddresses :
    (∃ record, Node.shape.check twoAddresses = .ok record ∧ record.ReadsUntagged) ∧
      ∃ setup, read (sample [] [.mapping twoAddresses]) = .ok setup ∧
        read (withoutTaggedKeys (sample [] [.mapping twoAddresses])) = .ok setup := by
  have law := untagged_entries_read Node.shape twoAddresses (sample [] [.mapping twoAddresses])
  constructor
  · obtain ⟨record, checked⟩ := check_twoAddresses
    exact ⟨record, checked, (law.1 (by decide) (by decide) record checked).2.1⟩
  · obtain ⟨setup, isRead⟩ : ∃ setup, read (sample [] [.mapping twoAddresses]) = .ok setup :=
      Reading.fault?_eq_none_iff.mp (by decide +kernel)
    exact ⟨setup, isRead, (law.2 (by decide +kernel) setup isRead).2.2⟩

/-- A mapping may pass its check with more entries than it has expected keys. -/
theorem not_every_entry_read :
    ¬ ∀ (entries : Entries) (record : Node.shape.Record), entries.Distinct →
      Node.shape.check entries = .ok record → entries.length = Node.shape.keys.length := by
  intro everyRead
  obtain ⟨record, checked⟩ := check_twoAddresses
  have sameLength := everyRead twoAddresses record (by decide) checked
  exact absurd sameLength (by decide)

end Setup

end ClusterConfig
