import ClusterConfig.Proofs.Setup.SingleFaults
import Mathlib.Data.List.Dedup

set_option autoImplicit false

/-!
# Tables of hosts

Hosts go into a setup under the texts of their keys, and of several hosts with one name the last is kept. So
no host is lost exactly if the texts are distinct, and the order of the hosts does not matter exactly if hosts
of one name have one address.
-/

namespace ClusterConfig.Setup

open Yaml

variable {document : Value} {setup : Setup} {hosts hosts' : Entries} {name : String} {address : Address}
  {table : Dictionary Address}

/-- The names of hosts, which are the texts of their keys. -/
def names (hosts : Entries) : List String := hosts.map fun host => host.1.text

/-- A table that has exactly one entry for each host: its address under its name. -/
def Keeps (hosts : Entries) (table : Dictionary Address) : Prop :=
  (hosts.map fun host => (host.1.text, Address.parse? host.2.text)).Perm
    (table.entries.map fun entry => (entry.1, some entry.2))

/-- Hosts of one name have one address. -/
def Agreeing (hosts : Entries) : Prop :=
  ∀ host ∈ hosts, ∀ other ∈ hosts, host.1.text = other.1.text →
    Address.parse? host.2.text = Address.parse? other.2.text

/-- The document with other hosts in its table. -/
def withHosts (hosts : Entries) (document : Value) : Value :=
  document.changeField "dns-bootstrap" (Value.changeEntries fun _ => hosts)

/-!
## Looking up the last host of a name
-/

theorem lastAddress?_concat (host : Value × Value) :
    lastAddress? (hosts ++ [host]) host.1.text = Address.parse? host.2.text := by
  simp [lastAddress?]

theorem mem_of_find?_last {host : Value × Value}
    (found : (hosts.reverse.find? fun host => host.1.text == name) = some host) :
    host ∈ hosts ∧ host.1.text = name :=
  ⟨List.mem_reverse.mp (List.mem_of_find?_eq_some found), by simpa using List.find?_some found⟩

theorem isSome_lastAddress?_iff (addresses : ∀ host ∈ hosts, (Address.parse? host.2.text).isSome) :
    (lastAddress? hosts name).isSome ↔ name ∈ names hosts := by
  rw [names, List.mem_map, lastAddress?]
  cases found : hosts.reverse.find? fun host => host.1.text == name with
  | none =>
      have absent := List.find?_eq_none.mp found
      simpa using fun host value member => by simpa using absent (host, value) (List.mem_reverse.mpr member)
  | some host =>
      obtain ⟨member, isName⟩ := mem_of_find?_last found
      simp only [Option.bind_some, addresses host member, true_iff]
      exact ⟨host, member, isName⟩

/-- Where hosts of one name have one address, it is that of any of them. -/
theorem Agreeing.lastAddress?_eq_some_iff (agreeing : Agreeing hosts) :
    lastAddress? hosts name = some address ↔
      ∃ host ∈ hosts, host.1.text = name ∧ Address.parse? host.2.text = some address := by
  constructor
  · intro isLast
    obtain ⟨host, found, isAddress⟩ := Option.bind_eq_some_iff.mp isLast
    obtain ⟨member, isName⟩ := mem_of_find?_last found
    exact ⟨host, member, isName, isAddress⟩
  · intro held
    obtain ⟨host, member, isName, isAddress⟩ := held
    have present : (hosts.reverse.find? fun host => host.1.text == name).isSome := by
      rw [List.find?_isSome]
      exact ⟨host, List.mem_reverse.mpr member, beq_iff_eq.mpr isName⟩
    obtain ⟨last, found⟩ := Option.isSome_iff_exists.mp present
    obtain ⟨isHost, sameName⟩ := mem_of_find?_last found
    rw [lastAddress?, found, Option.bind_some, ← isAddress]
    exact agreeing last isHost host member (sameName.trans isName.symm)

theorem Agreeing.perm (agreeing : Agreeing hosts) (perm : hosts.Perm hosts') : Agreeing hosts' := by
  intro host member other member'
  exact agreeing host (perm.mem_iff.mpr member) other (perm.mem_iff.mpr member')

theorem Agreeing.lastAddress?_perm (agreeing : Agreeing hosts) (perm : hosts.Perm hosts') (name : String) :
    lastAddress? hosts name = lastAddress? hosts' name := by
  refine Option.ext fun address => ?_
  rw [agreeing.lastAddress?_eq_some_iff, (agreeing.perm perm).lastAddress?_eq_some_iff]
  simp only [perm.mem_iff]

theorem agreeing_of_nodup (distinct : (names hosts).Nodup) : Agreeing hosts := by
  intro host member other member' sameName
  rw [List.inj_on_of_nodup_map distinct member member' sameName]

/-!
## Tables
-/

/-- What a table is that was read from hosts: all of them have an address, and the last of a name counts. -/
structure IsTable (hosts : Entries) (table : Dictionary Address) : Prop where
  addresses : ∀ host ∈ hosts, (Address.parse? host.2.text).isSome
  contents : ∀ name, table.get? name = lastAddress? hosts name

theorem Keeps.nodup (keeps : Keeps hosts table) : (names hosts).Nodup := by
  have perm := keeps.map Prod.fst
  rw [List.map_map, List.map_map] at perm
  exact perm.nodup_iff.mpr table.nodup_keys

namespace IsTable

theorem keys_perm (isTable : IsTable hosts table) : (table.entries.map Prod.fst).Perm (names hosts).dedup := by
  refine (List.perm_ext_iff_of_nodup table.nodup_keys (List.nodup_dedup _)).mpr fun name => ?_
  rw [Dictionary.mem_keys_iff, isTable.contents, isSome_lastAddress?_iff isTable.addresses, List.mem_dedup]

theorem length_entries (isTable : IsTable hosts table) :
    table.entries.length = (names hosts).dedup.length := by
  rw [← isTable.keys_perm.length_eq, List.length_map]

theorem length_eq_iff (isTable : IsTable hosts table) :
    table.entries.length = hosts.length ↔ (names hosts).Nodup := by
  have asMany : (names hosts).length = hosts.length := List.length_map _
  rw [isTable.length_entries, ← asMany, ← List.dedup_eq_self]
  constructor
  · exact (List.dedup_sublist _).eq_of_length
  · exact congrArg List.length

theorem keeps_of_nodup (isTable : IsTable hosts table) (distinct : (names hosts).Nodup) : Keeps hosts table := by
  have distinctHosts : (hosts.map fun host => (host.1.text, Address.parse? host.2.text)).Nodup := by
    refine .of_map Prod.fst ?_
    rw [List.map_map]
    exact distinct
  have distinctEntries : (table.entries.map fun entry => (entry.1, some entry.2)).Nodup := by
    refine .of_map Prod.fst ?_
    rw [List.map_map]
    exact table.nodup_keys
  refine (List.perm_ext_iff_of_nodup distinctHosts distinctEntries).mpr fun pair => ?_
  obtain ⟨name, found⟩ := pair
  simp only [List.mem_map, Prod.mk.injEq]
  cases found with
  | none =>
      constructor
      · intro held
        obtain ⟨host, member, _, isNone⟩ := held
        have isSome := isTable.addresses host member
        rw [isNone] at isSome
        cases isSome
      · intro held
        obtain ⟨_, _, _, isNone⟩ := held
        cases isNone
  | some address =>
      rw [← (agreeing_of_nodup distinct).lastAddress?_eq_some_iff, ← isTable.contents]
      constructor
      · intro found
        exact ⟨(name, address), Dictionary.mem_iff_get?.mpr found, rfl, rfl⟩
      · intro held
        obtain ⟨entry, member, rfl, isAddress⟩ := held
        rw [← isAddress]
        exact Dictionary.mem_iff_get?.mp member

end IsTable

/-!
## Documents
-/

theorem isTable_of_read (isRead : read document = .ok setup)
    (stand : document.fieldEntries? "dns-bootstrap" = some hosts) : IsTable hosts setup.dnsBootstrap := by
  obtain ⟨loadable, describes⟩ := loadable_of_read isRead
  obtain ⟨_, stand', addresses⟩ := loadable.dnsBootstrap
  cases stand.symm.trans stand'
  obtain ⟨_, stand', contents⟩ := describes.dnsBootstrap
  cases stand.symm.trans stand'
  exact ⟨addresses, contents⟩

theorem distinct_of_fieldEntries? (distinct : document.hasDistinctKeys = true) {key : String}
    (stand : document.fieldEntries? key = some hosts) : hosts.Distinct := by
  obtain ⟨block, found, areHosts⟩ := Option.bind_eq_some_iff.mp stand
  obtain ⟨entries, isMapping, found⟩ := Option.bind_eq_some_iff.mp found
  have blockDistinct := (Value.distinct_of_entries? distinct isMapping).2 _ (Entries.mem_of_get? found)
  exact (Value.distinct_of_entries? blockDistinct areHosts).1

/-- With other hosts a document is the same setup if these make up the same table. -/
theorem read_withHosts_iff (isRead : read document = .ok setup)
    (stand : document.fieldEntries? "dns-bootstrap" = some hosts) :
    read (withHosts hosts' document) = .ok setup ↔ IsTable hosts' setup.dnsBootstrap := by
  have stand' : (withHosts hosts' document).fieldEntries? "dns-bootstrap" = some hosts' := by
    rw [withHosts, Value.fieldEntries?_changeField, stand, Option.map_some]
  constructor
  · intro isRead'
    exact isTable_of_read isRead' stand'
  · intro isTable
    have sameField {key : String} (differs : key ≠ "dns-bootstrap") :
        (withHosts hosts' document).field? key = document.field? key := Value.field?_changeField_of_ne differs
    obtain ⟨accepts, cluster, addresses, servers, _, admins, nodes⟩ := read_eq_ok_iff.mp isRead
    rw [← sameField (by decide)] at cluster addresses servers admins nodes
    obtain ⟨block, found, areHosts⟩ := Option.bind_eq_some_iff.mp stand'
    exact read_eq_ok_iff.mpr ⟨accepts_changeField accepts _ _, cluster, addresses, servers,
      ⟨block, found, readBootstrap_eq_ok_iff.mpr ⟨hosts', areHosts, isTable.addresses, isTable.contents⟩⟩,
      admins, nodes⟩

/-- The order of the hosts does not matter exactly if hosts of one name have one address. -/
theorem reordered_iff (isRead : read document = .ok setup)
    (stand : document.fieldEntries? "dns-bootstrap" = some hosts) :
    (∀ hosts', hosts.Perm hosts' → read (withHosts hosts' document) = .ok setup) ↔ Agreeing hosts := by
  constructor
  · intro orderless
    -- Each host can be put last, where it counts.
    have counts : ∀ host ∈ hosts, setup.dnsBootstrap.get? host.1.text = Address.parse? host.2.text := by
      intro host member
      obtain ⟨before, after, order⟩ := List.append_of_mem member
      have perm : hosts.Perm (before ++ after ++ [host]) := by
        rw [order]
        exact List.perm_middle.trans (List.perm_append_singleton host _).symm
      have isTable := (read_withHosts_iff isRead stand).mp (orderless _ perm)
      rw [isTable.contents, lastAddress?_concat]
    intro host member other member' sameName
    rw [← counts host member, ← counts other member', sameName]
  · intro agreeing hosts' perm
    have isTable := isTable_of_read isRead stand
    refine (read_withHosts_iff isRead stand).mpr ⟨fun host member => ?_, fun name => ?_⟩
    · exact isTable.addresses host (perm.mem_iff.mpr member)
    · rw [isTable.contents, agreeing.lastAddress?_perm perm]

/-- Strings without tags that are distinct keys are distinct names. -/
theorem nodup_names_of_strings (distinct : hosts.Distinct) (strings : ∀ host ∈ hosts, ∃ text, host.1 = .string text) :
    (names hosts).Nodup := by
  refine List.pairwise_map.mpr (distinct.imp_of_mem ?_)
  intro host other member member' differ sameName
  obtain ⟨text, isString⟩ := strings host member
  obtain ⟨text', isString'⟩ := strings other member'
  simp_all [Value.text, Value.same]

/-- **Tables of hosts.** In a document that is read, the hosts are kept one by one exactly if their keys have
distinct texts, as strings have. There are always as many entries as there are texts, each with the address of
the last host of that text. The order of the hosts does not matter exactly if those of one text have one
address. -/
theorem bootstrap_kept_iff (isRead : read document = .ok setup) :
    ∃ hosts, document.fieldEntries? "dns-bootstrap" = some hosts ∧
      (Keeps hosts setup.dnsBootstrap ↔ (names hosts).Nodup) ∧
      (document.hasDistinctKeys = true → (∀ host ∈ hosts, ∃ text, host.1 = .string text) →
        (names hosts).Nodup) ∧
      (∀ name, setup.dnsBootstrap.get? name = lastAddress? hosts name) ∧
      setup.dnsBootstrap.entries.length = (names hosts).dedup.length ∧
      (setup.dnsBootstrap.entries.length = hosts.length ↔ (names hosts).Nodup) ∧
      ((∀ hosts', hosts.Perm hosts' → read (withHosts hosts' document) = .ok setup) ↔ Agreeing hosts) := by
  obtain ⟨hosts, stand, _⟩ := (loadable_of_read isRead).1.dnsBootstrap
  have isTable := isTable_of_read isRead stand
  refine ⟨hosts, stand, ⟨Keeps.nodup, isTable.keeps_of_nodup⟩, ?_, isTable.contents, isTable.length_entries,
    isTable.length_eq_iff, reordered_iff isRead stand⟩
  intro distinct strings
  exact nodup_names_of_strings (distinct_of_fieldEntries? distinct stand) strings

theorem bootstrap_kept_iff_sample :
    ∃ setup, read (sample [] []) = .ok setup ∧ Keeps [(.string "mirror", .string "10.0.0.9"),
      (.string "store", .string "10.0.0.10")] setup.dnsBootstrap := by
  obtain ⟨setup, isRead⟩ : ∃ setup, read (sample [] []) = .ok setup :=
    Reading.fault?_eq_none_iff.mp (by decide +kernel)
  obtain ⟨hosts, stand, keeps_iff, nodup_of_strings, _⟩ := bootstrap_kept_iff isRead
  cases stand
  refine ⟨setup, isRead, keeps_iff.mpr (nodup_of_strings (by decide +kernel) fun host member => ?_)⟩
  rcases List.mem_pair.mp member with rfl | rfl
  · exact ⟨"mirror", rfl⟩
  · exact ⟨"store", rfl⟩

/-- Two hosts with different keys of one text. -/
def likeHosts : Entries := [(.number (.integer 1), .string "10.0.0.9"), (.string "1", .string "10.0.0.10")]

/-- A number and a string that is spelled like it are different keys, but one host is lost, and which one
depends on their order. -/
theorem bootstrap_not_always_kept :
    ∃ setup setup', (withHosts likeHosts (sample [] [])).hasDistinctKeys = true ∧
      read (withHosts likeHosts (sample [] [])) = .ok setup ∧
      read (withHosts likeHosts.reverse (sample [] [])) = .ok setup' ∧
      ¬Keeps likeHosts setup.dnsBootstrap ∧ setup.dnsBootstrap.entries.length ≠ likeHosts.length ∧
      setup.dnsBootstrap ≠ setup'.dnsBootstrap := by
  obtain ⟨setup, isRead, checked⟩ := Reading.exists_ok_of_any
    (show (read (withHosts likeHosts (sample [] []))).toOption.any (fun setup =>
      setup.dnsBootstrap.entries = [("1", ⟨0x0A00000A⟩)]) = true by decide +kernel)
  obtain ⟨setup', isRead', checked'⟩ := Reading.exists_ok_of_any
    (show (read (withHosts likeHosts.reverse (sample [] []))).toOption.any (fun setup =>
      setup.dnsBootstrap.entries = [("1", ⟨0x0A000009⟩)]) = true by decide +kernel)
  have entries := of_decide_eq_true checked
  have entries' := of_decide_eq_true checked'
  refine ⟨setup, setup', by decide +kernel, isRead, isRead', fun keeps => ?_, ?_, fun same => ?_⟩
  · exact absurd keeps.nodup (by decide)
  · rw [entries]
    decide
  · rw [same, entries'] at entries
    revert entries
    decide

end ClusterConfig.Setup
