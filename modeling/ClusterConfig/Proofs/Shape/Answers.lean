import ClusterConfig.Proofs.Shape

set_option autoImplicit false

/-!
# Answers of a check

What a check answers, in the words of the mapping: the first fault in the order of the three scans, or else
the values in the order of the expected keys.
-/

namespace ClusterConfig.Shape

open Yaml

variable {α : Type} {name : String} {keys : List String} {passes : String → Value → Bool} {entries : Entries}

/-- A shape whose values have to pass a test, and are kept as they are. -/
def testing (name : String) (keys : List String) (passes : String → Value → Bool) : Shape Value where
  name
  keys
  accept key value := if passes key value then some value else none

/-- The first of the items that have a property. -/
def IsFirst {β : Type} (holds : β → Prop) (items : List β) (item : β) : Prop :=
  holds item ∧ ∃ before after, items = before ++ item :: after ∧ ∀ earlier ∈ before, ¬ holds earlier

/-- A key that is, through tags, one of the expected strings. -/
def Expected (keys : List String) (key : Value) : Prop := ∃ text ∈ keys, key.string? = some text

/-- An entry with a value that does not pass the test under its key. -/
def Fails (passes : String → Value → Bool) (entry : Value × Value) : Prop :=
  ∃ key, entry.1.string? = some key ∧ passes key entry.2 = false

/-- What is answered for a mapping. Unexpected keys count before missing ones, and these before values that
fail the test; the values are those under the expected keys, one for each in their order. -/
inductive Answers (keys : List String) (passes : String → Value → Bool) (entries : Entries) :
    Except Fault (List Value) → Prop where
  | unexpectedKey {entry} :
      IsFirst (fun entry => ¬ Expected keys entry.1) entries entry →
      Answers keys passes entries (.error (.unexpectedKey entry.1.text))
  | missingKey {key} :
      (∀ entry ∈ entries, Expected keys entry.1) →
      IsFirst (fun key => ∀ value, (Value.string key, value) ∉ entries) keys key →
      Answers keys passes entries (.error (.missingKey key))
  | invalidValue {entry key} :
      (∀ entry ∈ entries, Expected keys entry.1) →
      (∀ key ∈ keys, ∃ value, (Value.string key, value) ∈ entries) →
      IsFirst (Fails passes) entries entry → entry.1.string? = some key →
      Answers keys passes entries (.error (.invalidValue key entry.2.text))
  | values {values} :
      (∀ entry ∈ entries, Expected keys entry.1) →
      (∀ entry ∈ entries, ¬ Fails passes entry) →
      values.map some = keys.map (fun key => entries.get? key) →
      Answers keys passes entries (.ok values)

theorem find?_eq_some_iff_isFirst {β : Type} {test : β → Bool} {holds : β → Prop} {items : List β} {item : β}
    (same : ∀ item ∈ items, test item = true ↔ holds item) :
    items.find? test = some item ↔ IsFirst holds items item := by
  rw [List.find?_eq_some_iff_append]
  constructor
  · intro found
    obtain ⟨isTrue, before, after, rfl, others⟩ := found
    refine ⟨(same item (by simp)).mp isTrue, before, after, rfl, fun earlier member held => ?_⟩
    have isTrue' := (same earlier (by simp [member])).mpr held
    simpa [isTrue'] using others earlier member
  · intro first
    obtain ⟨held, before, after, rfl, others⟩ := first
    refine ⟨(same item (by simp)).mpr held, before, after, rfl, fun earlier member => ?_⟩
    have isFalse := mt (same earlier (by simp [member])).mp (others earlier member)
    simpa using isFalse

theorem not_expects_iff {shape : Shape α} {key : Value} :
    (!shape.expects key) = true ↔ ¬ Expected shape.keys key := by
  rw [Expected, ← expects_iff]
  simp

theorem isNone_get?_iff {key : String} :
    (entries.get? key).isNone = true ↔ ∀ value, (Value.string key, value) ∉ entries := by
  rw [Option.isNone_iff_eq_none, Entries.get?_eq_none_iff]
  constructor
  · intro absent value member
    exact absent _ member rfl
  · intro absent entry member isKey
    exact absent entry.2 (isKey ▸ member)

theorem refuses_testing_iff {entry : Value × Value} (expected : Expected keys entry.1) :
    (testing name keys passes).refuses entry = true ↔ Fails passes entry := by
  obtain ⟨key, _, isText⟩ := expected
  simp [refuses, testing, keyText, Fails, isText]

/-- The values of a record are those found under the keys. -/
theorem Record.map_some_values {shape : Shape α} (record : Record shape) :
    record.values.map some = shape.keys.map (shape.lookup? record.entries) := by
  calc record.values.map some
      = shape.keys.attach.map (fun key => shape.lookup? record.entries key.1) := by
        rw [Record.values, List.map_map]
        exact List.map_congr_left fun key _ => (record.lookup?_eq_some key.2).symm
    _ = (shape.keys.attach.map Subtype.val).map (shape.lookup? record.entries) := by
        rw [List.map_map]
        rfl
    _ = shape.keys.map (shape.lookup? record.entries) := by rw [List.attach_map_subtype_val]

theorem lookup?_testing {key : String} (passed : ∀ entry ∈ entries, ¬ Fails passes entry) :
    (testing name keys passes).lookup? entries key = entries.get? key := by
  rw [lookup?]
  cases found : entries.get? key with
  | none => rfl
  | some value =>
      have isTrue : passes key value = true := by
        by_contra isFalse
        exact passed _ (Entries.mem_of_get? found) ⟨key, rfl, by simpa using isFalse⟩
      simp [testing, isTrue]

theorem find?_unexpected_eq_some_iff {entry : Value × Value} :
    (entries.find? fun entry => !(testing name keys passes).expects entry.1) = some entry ↔
      IsFirst (fun entry => ¬ Expected keys entry.1) entries entry :=
  find?_eq_some_iff_isFirst fun _ _ => not_expects_iff

theorem find?_unexpected_eq_none_iff :
    (entries.find? fun entry => !(testing name keys passes).expects entry.1) = none ↔
      ∀ entry ∈ entries, Expected keys entry.1 := by
  rw [List.find?_eq_none]
  refine forall₂_congr fun entry _ => ?_
  rw [not_expects_iff, not_not]
  rfl

theorem find?_missing_eq_some_iff {key : String} :
    (keys.find? fun key => (entries.get? key).isNone) = some key ↔
      IsFirst (fun key => ∀ value, (Value.string key, value) ∉ entries) keys key :=
  find?_eq_some_iff_isFirst fun _ _ => isNone_get?_iff

theorem find?_missing_eq_none_iff :
    (keys.find? fun key => (entries.get? key).isNone) = none ↔
      ∀ key ∈ keys, ∃ value, (Value.string key, value) ∈ entries := by
  rw [List.find?_eq_none]
  refine forall₂_congr fun key _ => ?_
  rw [isNone_get?_iff, not_forall]
  simp only [not_not]

theorem find?_refused_eq_some_iff {entry : Value × Value}
    (expected : ∀ entry ∈ entries, Expected keys entry.1) :
    entries.find? (testing name keys passes).refuses = some entry ↔ IsFirst (Fails passes) entries entry :=
  find?_eq_some_iff_isFirst fun entry member => refuses_testing_iff (expected entry member)

theorem find?_refused_eq_none_iff (expected : ∀ entry ∈ entries, Expected keys entry.1) :
    entries.find? (testing name keys passes).refuses = none ↔ ∀ entry ∈ entries, ¬ Fails passes entry := by
  rw [List.find?_eq_none]
  exact forall₂_congr fun entry member => not_congr (refuses_testing_iff (expected entry member))

/-- A mapping has a fault exactly if one is answered for it. -/
theorem fault?_testing_eq_some_iff {fault : Fault} :
    (testing name keys passes).fault? entries = some fault ↔ Answers keys passes entries (.error fault) := by
  simp only [fault?, Option.or_eq_some_iff, Option.map_eq_some_iff, Option.map_eq_none_iff,
    find?_unexpected_eq_some_iff, find?_unexpected_eq_none_iff]
  constructor
  · intro facts
    rcases facts with ⟨entry, first, rfl⟩ | ⟨expected, ⟨key, found, rfl⟩ | ⟨present, entry, found, rfl⟩⟩
    · exact .unexpectedKey first
    · exact .missingKey expected (find?_missing_eq_some_iff.mp found)
    · have first := (find?_refused_eq_some_iff expected).mp found
      obtain ⟨key, isText, _⟩ := first.1
      rw [keyText, isText]
      exact .invalidValue expected (find?_missing_eq_none_iff.mp present) first isText
  · intro answers
    cases answers with
    | unexpectedKey first => exact .inl ⟨_, first, rfl⟩
    | missingKey expected first =>
        exact .inr ⟨expected, .inl ⟨_, find?_missing_eq_some_iff.mpr first, rfl⟩⟩
    | invalidValue expected present first isText =>
        refine .inr ⟨expected, .inr ⟨find?_missing_eq_none_iff.mpr present, _,
          (find?_refused_eq_some_iff expected).mpr first, ?_⟩⟩
        rw [keyText, isText]
        rfl

theorem fits_testing_iff :
    (testing name keys passes).Fits entries ↔
      (∀ entry ∈ entries, Expected keys entry.1) ∧
        (∀ key ∈ keys, ∃ value, (Value.string key, value) ∈ entries) ∧
          ∀ entry ∈ entries, ¬ Fails passes entry := by
  simp only [← fault?_eq_none_iff, fault?, Option.or_eq_none_iff, Option.map_eq_none_iff,
    find?_unexpected_eq_none_iff]
  refine and_congr_right fun expected => ?_
  exact and_congr find?_missing_eq_none_iff (find?_refused_eq_none_iff expected)

theorem check_testing_eq_error_iff (name : String) {fault : Fault} :
    (testing name keys passes).check entries = .error fault ↔ Answers keys passes entries (.error fault) := by
  rw [← fault?_testing_eq_some_iff, ← fault?_check, Reading.fault?_eq_some_iff]

/-- A list of values is answered exactly if it is the values of the record that is made of the mapping. -/
theorem answers_ok_iff (name : String) {values : List Value} :
    Answers keys passes entries (.ok values) ↔
      ∃ record, (testing name keys passes).check entries = .ok record ∧ record.values = values := by
  have found (passed : ∀ entry ∈ entries, ¬ Fails passes entry) :
      keys.map ((testing name keys passes).lookup? entries) = keys.map fun key => entries.get? key :=
    List.map_congr_left fun key _ => lookup?_testing passed
  constructor
  · intro answers
    cases answers with
    | values expected passed isFound =>
        have present : ∀ key ∈ keys, ∃ value, (Value.string key, value) ∈ entries := by
          intro key member
          have inFound : entries.get? key ∈ values.map some := isFound ▸ List.mem_map_of_mem member
          obtain ⟨value, _, isValue⟩ := List.mem_map.mp inFound
          exact ⟨value, Entries.mem_of_get? isValue.symm⟩
        obtain ⟨record, checked⟩ := Reading.fault?_eq_none_iff.mp ((fault?_check _ entries).trans
          (fault?_eq_none_iff.mpr (fits_testing_iff.mpr ⟨expected, present, passed⟩)))
        refine ⟨record, checked, List.map_injective_iff.mpr (fun _ _ => Option.some.inj) ?_⟩
        rw [record.map_some_values, entries_of_check checked, isFound]
        exact found passed
  · intro facts
    obtain ⟨record, checked, rfl⟩ := facts
    obtain ⟨same, fits⟩ := check_eq_ok_iff.mp checked
    obtain ⟨expected, _, passed⟩ := fits_testing_iff.mp fits
    refine .values expected passed ?_
    rw [record.map_some_values, same]
    exact found passed

theorem map_values_check_iff {answer : Except Fault (List Value)} :
    ((testing name keys passes).check entries).map Record.values = answer ↔
      Answers keys passes entries answer := by
  cases answer with
  | error fault =>
      rw [← check_testing_eq_error_iff name]
      cases (testing name keys passes).check entries <;> simp [Except.map]
  | ok values =>
      rw [answers_ok_iff name]
      cases (testing name keys passes).check entries <;> simp [Except.map]

theorem getElem?_values {shape : Shape α} (record : Record shape) (index : Nat)
    (inRange : index < shape.keys.length) :
    record.values[index]? = some (record.value shape.keys[index] (List.getElem_mem inRange)) := by
  simp [Record.values, inRange]

/-- A shape whose values have to be strings, and are read as their texts. -/
def textual (name : String) (keys : List String) : Shape String := ⟨name, keys, Value.string?⟩

theorem refuses_textual :
    (textual name keys).refuses = (testing name keys fun _ value => value.string?.isSome).refuses := by
  funext entry
  simp only [refuses, textual, testing]
  split
  · rename_i isText
    simp [isText]
  · rename_i foreign
    simp [Option.not_isSome_iff_eq_none.mp foreign]

theorem fault?_textual :
    (textual name keys).fault? entries =
      (testing name keys fun _ value => value.string?.isSome).fault? entries := by
  rw [fault?, fault?, refuses_textual]
  rfl

/-- Values that are tested to be strings are read as their texts, whatever would stand in for a value that
is no string. -/
theorem exists_texts {values : List Value}
    (answers : Answers keys (fun _ value => value.string?.isSome) entries (.ok values)) :
    ∃ texts : List String, ((textual name keys).check entries).map Record.values = .ok texts ∧
      values.map Value.string? = texts.map some ∧
      ∀ fallback, values.map (fun value => value.string?.getD fallback) = texts := by
  obtain ⟨record, checked, _⟩ := (answers_ok_iff name).mp answers
  cases answers with
  | values expected passed isFound =>
  have noFault : (textual name keys).fault? entries = none := by
    rw [fault?_textual, ← fault?_check, checked]
    rfl
  obtain ⟨record', checked'⟩ := Reading.fault?_eq_none_iff.mp ((fault?_check _ entries).trans noFault)
  have areTexts : values.map Value.string? = record'.values.map some := by
    calc values.map Value.string?
        = (values.map some).map fun found => found.bind Value.string? := by
          rw [List.map_map]
          rfl
      _ = keys.map ((textual name keys).lookup? entries) := by
          rw [isFound, List.map_map]
          rfl
      _ = record'.values.map some := by
          rw [record'.map_some_values, entries_of_check checked']
          rfl
  refine ⟨record'.values, by rw [checked']; rfl, areTexts, fun fallback => ?_⟩
  calc values.map (fun value => value.string?.getD fallback)
      = (values.map Value.string?).map fun text => text.getD fallback := by
        rw [List.map_map]
        rfl
    _ = record'.values := by
        rw [areTexts, List.map_map]
        exact List.map_id _

/-- **Checks of mappings.** A mapping is answered with its first fault, unexpected keys before missing ones
and these before values that fail the test, or else with its values in the order of the expected keys. Where
strings are asked for all values are strings, and the value in a place is the one that its key names. -/
theorem check_answers_in_order (name : String) (keys : List String) (entries : Entries) :
    (∀ passes answer, ((testing name keys passes).check entries).map Record.values = answer ↔
      Answers keys passes entries answer) ∧
      (∀ values, Answers keys (fun _ value => value.string?.isSome) entries (.ok values) →
        ∃ texts, ((textual name keys).check entries).map Record.values = .ok texts ∧
          values.map Value.string? = texts.map some ∧
          ∀ fallback, values.map (fun value => value.string?.getD fallback) = texts) ∧
      ∀ {α : Type} (shape : Shape α) (record : Record shape) index (inRange : index < shape.keys.length),
        record.values[index]? = some (record.value shape.keys[index] (List.getElem_mem inRange)) := by
  refine ⟨fun passes answer => map_values_check_iff, fun values answers => exists_texts answers, ?_⟩
  intro α shape record index inRange
  exact getElem?_values record index inRange

/-- Entries in another order than their expected keys, one with a tag on its value. -/
def swapped : Entries := [(.string "a", .string "x"), (.string "b", .tagged "t" (.string "y"))]

theorem check_answers_in_order_swapped :
    ((testing "block" ["b", "a"] fun _ value => value.string?.isSome).check swapped).map Record.values =
        .ok [.tagged "t" (.string "y"), .string "x"] ∧
      ((textual "block" ["b", "a"]).check swapped).map Record.values = .ok ["y", "x"] := by
  obtain ⟨answered, areTexts, _⟩ := check_answers_in_order "block" ["b", "a"] swapped
  have answers : Answers ["b", "a"] (fun _ value => value.string?.isSome) swapped
      (.ok [.tagged "t" (.string "y"), .string "x"]) := by
    refine .values ?_ ?_ rfl
    · simp [swapped, Expected, Value.string?, Value.untagged]
    · simp [swapped, Fails, Value.string?, Value.untagged]
  refine ⟨(answered _ _).mpr answers, ?_⟩
  obtain ⟨texts, isAnswer, _, filled⟩ := areTexts _ answers
  rw [isAnswer, ← filled ""]
  rfl

end ClusterConfig.Shape
