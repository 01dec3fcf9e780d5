import ClusterConfig.Proofs.Reading
import ClusterConfig.Proofs.Yaml.DistinctKeys
import ClusterConfig.Shape

set_option autoImplicit false

/-!
# Laws of shapes

When a mapping has a shape, and which fault is reported when it has not.
-/

namespace ClusterConfig.Shape

open Yaml

variable {α : Type} {shape : Shape α} {entries : Entries}

/-- Every key is the text of an expected key, every expected key is there without a tag, and every value
can be read under its key. -/
structure Fits (shape : Shape α) (entries : Entries) : Prop where
  expected : ∀ entry ∈ entries, ∃ key ∈ shape.keys, entry.1.string? = some key
  present : ∀ key ∈ shape.keys, (entries.get? key).isSome
  acceptable : ∀ entry ∈ entries, (shape.accept (keyText entry.1) entry.2).isSome

/-- A value that is, through tags, a mapping that has the shape. -/
def Accepts (shape : Shape α) (value : Value) : Prop :=
  ∃ entries, value.entries? = some entries ∧ shape.Fits entries

/-- The fault of a mapping: its first unexpected key, or else the first expected key that is missing, or
else its first value that cannot be read. -/
def fault? (shape : Shape α) (entries : Entries) : Option Fault :=
  ((entries.find? fun entry => !shape.expects entry.1).map fun entry =>
    Fault.unexpectedKey entry.1.text).or <|
  ((shape.keys.find? fun key => (entries.get? key).isNone).map Fault.missingKey).or <|
  (entries.find? shape.refuses).map fun entry => Fault.invalidValue (keyText entry.1) entry.2.text

theorem expects_iff {key : Value} :
    shape.expects key = true ↔ ∃ text ∈ shape.keys, key.string? = some text := by
  simp [expects, Option.any_eq_true, and_comm]

/-- The three scans report their faults in this order. -/
theorem fault?_check (shape : Shape α) (entries : Entries) :
    Reading.fault? (shape.check entries) = shape.fault? entries := by
  unfold check fault?
  split
  · rename_i key value found
    simp [found]
  · rename_i unexpected
    split
    · rename_i key missing
      simp [unexpected, missing]
    · rename_i missing
      split
      · rename_i key value refused
        simp [unexpected, missing, refused]
      · rename_i refused
        simp [unexpected, missing, refused]

theorem fault?_eq_none_iff : shape.fault? entries = none ↔ shape.Fits entries := by
  simp only [fault?, Option.or_eq_none_iff, Option.map_eq_none_iff, List.find?_eq_none]
  constructor
  · intro facts
    obtain ⟨expected, present, acceptable⟩ := facts
    refine ⟨fun entry member => ?_, fun key member => ?_, fun entry member => ?_⟩
    · exact expects_iff.mp (by simpa using expected entry member)
    · simpa [Option.ne_none_iff_isSome] using present key member
    · simpa [refuses, Option.ne_none_iff_isSome] using acceptable entry member
  · intro fits
    refine ⟨fun entry member => ?_, fun key member => ?_, fun entry member => ?_⟩
    · simpa using expects_iff.mpr (fits.expected entry member)
    · simpa [Option.ne_none_iff_isSome] using fits.present key member
    · simpa [refuses, Option.ne_none_iff_isSome] using fits.acceptable entry member

/-- The order of the entries does not matter. -/
theorem Fits.perm {other : Entries} (fits : shape.Fits entries) (distinct : entries.Distinct)
    (perm : entries.Perm other) : shape.Fits other := by
  refine ⟨fun entry member => ?_, fun key expected => ?_, fun entry member => ?_⟩
  · exact fits.expected entry (perm.mem_iff.mpr member)
  · rw [← distinct.get?_perm perm]
    exact fits.present key expected
  · exact fits.acceptable entry (perm.mem_iff.mpr member)

/-- A record is made of the entries that were checked. -/
theorem entries_of_check {record : Record shape} (checked : shape.check entries = .ok record) :
    record.entries = entries := by
  unfold check at checked
  split at checked
  · cases checked
  · split at checked
    · cases checked
    · split at checked
      · cases checked
      · cases checked
        rfl

theorem Record.ext_entries {left right : Record shape} (same : left.entries = right.entries) :
    left = right := by
  cases left
  cases right
  cases same
  rfl

/-- Checking succeeds exactly on the entries that have the shape, and answers these entries. -/
theorem check_eq_ok_iff {record : Record shape} :
    shape.check entries = .ok record ↔ record.entries = entries ∧ shape.Fits entries := by
  constructor
  · intro checked
    refine ⟨entries_of_check checked, fault?_eq_none_iff.mp ?_⟩
    rw [← fault?_check, checked, Reading.fault?_ok]
  · intro both
    obtain ⟨same, fits⟩ := both
    obtain ⟨record', checked⟩ := Reading.fault?_eq_none_iff.mp
      ((fault?_check shape entries).trans (fault?_eq_none_iff.mpr fits))
    have equal : record' = record := Record.ext_entries ((entries_of_check checked).trans same.symm)
    rw [checked, equal]

theorem entries_eq_ok_iff {name : String} {value : Value} :
    Shape.entries name value = .ok entries ↔ value.entries? = some entries := by
  unfold Shape.entries
  split <;> simp_all

theorem items_eq_ok_iff {name : String} {value : Value} {items : List Value} :
    Shape.items name value = .ok items ↔ value.items? = some items := by
  unfold Shape.items
  split <;> simp_all

/-- Reading succeeds exactly on mappings that have the shape, through tags. -/
theorem read_eq_ok_iff {value : Value} {record : Record shape} :
    shape.read value = .ok record ↔
      value.entries? = some record.entries ∧ shape.Fits record.entries := by
  simp only [read, Reading.bind_eq_ok_iff, entries_eq_ok_iff, check_eq_ok_iff]
  constructor
  · intro facts
    obtain ⟨entries, isMapping, same, fits⟩ := facts
    exact ⟨same ▸ isMapping, same ▸ fits⟩
  · intro both
    obtain ⟨isMapping, fits⟩ := both
    exact ⟨_, isMapping, rfl, fits⟩

theorem strings_eq_ok_iff {name : String} {value : Value} {texts : List String} :
    Shape.strings name value = .ok texts ↔ ∃ items, value.items? = some items ∧
      List.Forall₂ (fun item text => item.string? = some text) items texts := by
  simp only [strings, Reading.bind_eq_ok_iff, items_eq_ok_iff, ← Reading.mapM_eq_some_iff]
  refine exists_congr fun items => and_congr_right fun _ => ?_
  split <;> simp_all

/-- Faults that differ at most in the entry that they name. -/
inductive Fault.Alike : Fault → Fault → Prop where
  | same (fault) : Alike fault fault
  | unexpectedKey (key key') : Alike (.unexpectedKey key) (.unexpectedKey key')
  | invalidValue (key value key' value') : Alike (.invalidValue key value) (.invalidValue key' value')

theorem entries_alike {related : Entries → Entries → Prop} {name : String} {left right : Value}
    (alike : Option.Rel related left.entries? right.entries?) :
    Reading.Similar Fault.Alike
      (fun entries entries' => left.entries? = some entries ∧ related entries entries')
      (Shape.entries name left) (Shape.entries name right) := by
  unfold Shape.entries
  generalize left.entries? = first, right.entries? = second at alike
  cases alike with
  | none => exact .error (.same _)
  | some held => exact .ok ⟨rfl, held⟩

theorem items_alike {related : List Value → List Value → Prop} {name : String} {left right : Value}
    (alike : Option.Rel related left.items? right.items?) :
    Reading.Similar Fault.Alike
      (fun items items' => left.items? = some items ∧ related items items')
      (Shape.items name left) (Shape.items name right) := by
  unfold Shape.items
  generalize left.items? = first, right.items? = second at alike
  cases alike with
  | none => exact .error (.same _)
  | some held => exact .ok ⟨rfl, held⟩

private theorem exists_key_iff {left right : Entries}
    (keys : (left.map Prod.fst).Perm (right.map Prod.fst)) (holds : Value → Prop) :
    (∃ entry ∈ left, holds entry.1) ↔ ∃ entry ∈ right, holds entry.1 := by
  have inKeys (entries : Entries) :
      (∃ entry ∈ entries, holds entry.1) ↔ ∃ key ∈ entries.map Prod.fst, holds key := by simp
  rw [inKeys, inKeys]
  simp only [keys.mem_iff]

/-- Two mappings with the same keys, both or neither of which hold a value that cannot be read, have
faults that are alike. -/
theorem fault?_alike {left right : Entries} (keys : (left.map Prod.fst).Perm (right.map Prod.fst))
    (refused : (∃ entry ∈ left, shape.refuses entry = true) ↔
      ∃ entry ∈ right, shape.refuses entry = true) :
    Option.Rel Fault.Alike (shape.fault? left) (shape.fault? right) := by
  have unexpected := exists_key_iff keys fun key => (!shape.expects key) = true
  have present (key : String) : (left.get? key).isNone = (right.get? key).isNone := by
    rw [Bool.eq_iff_iff, Option.isNone_iff_eq_none, Option.isNone_iff_eq_none,
      Entries.get?_eq_none_iff, Entries.get?_eq_none_iff]
    have found := not_congr (exists_key_iff keys fun other => other = .string key)
    simpa only [not_exists, not_and] using found
  refine Reading.rel_or (Reading.rel_find? unexpected fun _ _ => .unexpectedKey _ _)
    (Reading.rel_or ?_ (Reading.rel_find? refused fun _ _ => .invalidValue _ _ _ _))
  simp only [present]
  cases (shape.keys.find? fun key => (right.get? key).isNone).map Fault.missingKey with
  | none => exact .none
  | some fault => exact .some (.same fault)

theorem check_alike {left right : Entries} (keys : (left.map Prod.fst).Perm (right.map Prod.fst))
    (refused : (∃ entry ∈ left, shape.refuses entry = true) ↔
      ∃ entry ∈ right, shape.refuses entry = true) :
    Reading.Similar Fault.Alike (fun record record' => record.entries = left ∧ record'.entries = right)
      (shape.check left) (shape.check right) := by
  refine Reading.Similar.of_fault? ?_ fun record record' checked checked' => ?_
  · rw [fault?_check, fault?_check]
    exact fault?_alike keys refused
  · exact ⟨entries_of_check checked, entries_of_check checked'⟩

end ClusterConfig.Shape
