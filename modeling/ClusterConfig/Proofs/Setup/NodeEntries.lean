import ClusterConfig.Proofs.Setup.Blocks
import ClusterConfig.Proofs.Yaml.Text

set_option autoImplicit false

/-!
# Entries of nodes

An entry with the right keys is read exactly if its address and its kind are plain strings of the right
form. They are read by their texts, so this needs that nothing else is shown as such a string.
-/

namespace ClusterConfig.Node

open Yaml

variable {entry hostname ip kind value : Value}

/-- A string without a tag that spells an address. -/
inductive SpellsAddress : Value → Address → Prop where
  | string {text address} : Address.DottedQuad text address → SpellsAddress (.string text) address

/-- A string without a tag that is the name of a kind. -/
inductive SpellsKind : Value → Kind → Prop where
  | master : SpellsKind (.string "master") .master
  | worker : SpellsKind (.string "worker") .worker
  | supervisor : SpellsKind (.string "supervisor") .supervisor

theorem readAddress_text_iff {address : Address} :
    Setup.readAddress value.text = .ok address ↔ SpellsAddress value address := by
  rw [Setup.readAddress_eq_ok_iff, Address.parse?_eq_some_iff]
  constructor
  · intro isText
    rw [Value.eq_string_of_text_address isText]
    exact .string (Address.dottedQuad_iff.mpr rfl)
  · intro spells
    cases spells with
    | string spelled => exact Address.dottedQuad_iff.mp spelled

theorem readKind_text_iff {role : Kind} : Kind.read value.text = .ok role ↔ SpellsKind value role := by
  rw [Kind.read_eq_ok_iff]
  constructor
  · intro isText
    rw [Value.eq_string_of_text_kind isText]
    cases role with
    | master => exact .master
    | worker => exact .worker
    | supervisor => exact .supervisor
  · intro spells
    cases spells with
    | master => rfl
    | worker => rfl
    | supervisor => rfl

theorem readAddress_text_of_foreign (foreign : ∀ address, ¬SpellsAddress value address) :
    Setup.readAddress value.text = .error (.notAddress value.text) := by
  cases isRead : Setup.readAddress value.text with
  | ok address => exact absurd (readAddress_text_iff.mp isRead) (foreign address)
  | error fault =>
      unfold Setup.readAddress at isRead
      split at isRead
      · cases isRead
      · cases isRead
        rfl

theorem readKind_text_of_foreign (foreign : ∀ role, ¬SpellsKind value role) :
    Kind.read value.text = .error (.notNodeKind value.text) := by
  cases isRead : Kind.read value.text with
  | ok role => exact absurd (readKind_text_iff.mp isRead) (foreign role)
  | error fault =>
      unfold Kind.read at isRead
      split at isRead
      · cases isRead
      · cases isRead
        rfl

/-- What becomes of an entry with these values: the address is looked at before the kind. -/
structure Decided (entry hostname ip kind : Value) : Prop where
  read_iff : ∀ node, read entry = .ok node ↔
    SpellsAddress ip node.address ∧ SpellsKind kind node.kind ∧ node.hostname = hostname.text
  notAddress : (∀ address, ¬SpellsAddress ip address) → read entry = .error (.notAddress ip.text)
  notKind : ∀ address, SpellsAddress ip address → (∀ role, ¬SpellsKind kind role) →
    read entry = .error (.notNodeKind kind.text)

/-- Once the keys are checked, an entry is read by the texts of its values. -/
theorem decided_of_read (isRead : read entry = do
      let address ← Setup.readAddress ip.text
      let role ← Kind.read kind.text
      pure { hostname := hostname.text, address, kind := role }) :
    Decided entry hostname ip kind := by
  refine ⟨fun node => ?_, fun foreign => ?_, fun address spelled foreign => ?_⟩
  · simp only [isRead, Reading.bind_eq_ok_iff, Reading.pure_eq_ok_iff, readAddress_text_iff, readKind_text_iff]
    constructor
    · intro facts
      obtain ⟨address, isAddress, role, isKind, rfl⟩ := facts
      exact ⟨isAddress, isKind, rfl⟩
    · intro facts
      obtain ⟨isAddress, isKind, isHostname⟩ := facts
      exact ⟨node.address, isAddress, node.kind, isKind, by rw [← isHostname]⟩
  · rw [isRead, readAddress_text_of_foreign foreign]
    rfl
  · rw [isRead, readAddress_text_iff.mpr spelled, readKind_text_of_foreign foreign]
    rfl

/-- **Entries of nodes.** An entry that passes the check of its keys is read exactly if its address and its
kind are plain strings that spell these, and then as the node that they and the text of its host name make
up; otherwise the text of the bad address is reported, or else the text of the bad kind. -/
theorem entry_read_or_refused {record : shape.Record} (passes : Setup.readRecord shape entry = .ok record) :
    ∃ hostname ip kind, entry.field? "hostname" = some hostname ∧ entry.field? "ip" = some ip ∧
      entry.field? "kind" = some kind ∧ Decided entry hostname ip kind := by
  have field (key : String) (expected : key ∈ shape.keys) :
      entry.field? key = some (record.value key expected) := by
    rw [← Setup.field?_of_readRecord passes key expected]
    exact (Option.bind_fun_some _).symm
  refine ⟨_, _, _, field "hostname" (by decide), field "ip" (by decide), field "kind" (by decide), ?_⟩
  exact decided_of_read (by rw [read, passes]; rfl)

/-- An entry with the given kind, and a number for its host name. -/
def numberedEntry (kind : Value) : Value :=
  .mapping [(.string "hostname", .number (.integer 7)), (.string "ip", .string "10.0.0.1"), (.string "kind", kind)]

theorem numberedEntry_passes (kind : Value) :
    ∃ record, Setup.readRecord shape (numberedEntry kind) = .ok record :=
  Reading.fault?_eq_none_iff.mp rfl

theorem entry_read_or_refused_tagged :
    read (numberedEntry (.string "master")) = .ok ⟨"7", ⟨0x0A000001⟩, .master⟩ ∧
      read (numberedEntry (.tagged "t" (.string "master"))) = .error (.notNodeKind "!t master") := by
  have spelled : SpellsAddress (.string "10.0.0.1") ⟨0x0A000001⟩ := .string (Address.dottedQuad_iff.mpr rfl)
  constructor
  · obtain ⟨record, passes⟩ := numberedEntry_passes (.string "master")
    obtain ⟨hostname, ip, kind, isHostname, isIp, isKind, decided⟩ := entry_read_or_refused passes
    cases isHostname
    cases isIp
    cases isKind
    exact (decided.read_iff _).mpr ⟨spelled, .master, by decide⟩
  · obtain ⟨record, passes⟩ := numberedEntry_passes (.tagged "t" (.string "master"))
    obtain ⟨hostname, ip, kind, _, isIp, isKind, decided⟩ := entry_read_or_refused passes
    cases isIp
    cases isKind
    exact decided.notKind _ spelled fun role isRole => by cases isRole

end ClusterConfig.Node
