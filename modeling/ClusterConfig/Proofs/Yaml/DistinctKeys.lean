import ClusterConfig.Proofs.Reading
import ClusterConfig.Yaml.Value.Document
import Mathlib.Data.List.Find
import Mathlib.Data.List.Pairwise

set_option autoImplicit false

/-!
# Distinct keys

In the value of a document no mapping holds a key twice, at any depth. Under this condition a lookup
finds the one entry there is, wherever it stands.
-/

namespace ClusterConfig.Yaml

namespace Entries

def Distinct (entries : Entries) : Prop :=
  entries.Pairwise fun earlier later => later.1.same earlier.1 = false

instance (entries : Entries) : Decidable entries.Distinct :=
  inferInstanceAs (Decidable (List.Pairwise _ _))

private def Apart (name : String) (left right : Value × Value) : Prop :=
  ¬ (left.1 = .string name ∧ right.1 = .string name)

private instance (name : String) : Std.Symm (Apart name) :=
  ⟨fun _ _ apart both => apart both.symm⟩

theorem Distinct.unique {entries : Entries} (distinct : entries.Distinct) {name : String}
    {left right : Value × Value} (inLeft : left ∈ entries) (inRight : right ∈ entries)
    (leftName : left.1 = .string name) (rightName : right.1 = .string name) : left = right := by
  have apart : entries.Pairwise (Apart name) := by
    refine distinct.imp fun {earlier later} differ => ?_
    intro both
    obtain ⟨earlierName, laterName⟩ := both
    simp [earlierName, laterName, Value.same] at differ
  by_contra differ
  exact apart.forall inLeft inRight differ ⟨leftName, rightName⟩

/-- A name is found in a mapping exactly if it is a key there. -/
theorem Distinct.get?_eq_some_iff {entries : Entries} (distinct : entries.Distinct) {name : String}
    {value : Value} : entries.get? name = some value ↔ (Value.string name, value) ∈ entries := by
  refine ⟨mem_of_get?, fun member => ?_⟩
  cases found : entries.get? name with
  | none => exact absurd rfl (get?_eq_none_iff.mp found _ member)
  | some value' =>
      have same := distinct.unique member (mem_of_get? found) rfl rfl
      exact congrArg some (Prod.mk.inj same).2.symm

/-- What is found does not depend on the order of the entries. -/
theorem Distinct.get?_perm {left right : Entries} (distinct : left.Distinct) (perm : left.Perm right)
    (name : String) : left.get? name = right.get? name := by
  rw [get?, get?, List.find?_eq_find?_of_perm perm]
  intro first inFirst second inSecond
  exact distinct.unique inFirst.1 inSecond.1 (Value.isString_iff.mp inFirst.2)
    (Value.isString_iff.mp inSecond.2)

theorem Distinct.of_keys_eq {left right : Entries} (distinct : left.Distinct)
    (keys : left.map Prod.fst = right.map Prod.fst) : right.Distinct := by
  have apart : (left.map Prod.fst).Pairwise fun earlier later => later.same earlier = false :=
    List.pairwise_map.mpr distinct
  rw [keys] at apart
  exact List.pairwise_map.mp apart

end Entries

namespace Value

mutual

def hasDistinctKeys : Value → Bool
  | .sequence items => haveDistinctKeys items
  | .mapping entries => decide (Entries.Distinct entries) && partsHaveDistinctKeys entries
  | .tagged _ value => hasDistinctKeys value
  | _ => true

def haveDistinctKeys : List Value → Bool
  | [] => true
  | item :: rest => hasDistinctKeys item && haveDistinctKeys rest

def partsHaveDistinctKeys : Entries → Bool
  | [] => true
  | (key, value) :: rest =>
      hasDistinctKeys key && hasDistinctKeys value && partsHaveDistinctKeys rest

end

theorem haveDistinctKeys_iff {items : List Value} :
    haveDistinctKeys items = true ↔ ∀ item ∈ items, item.hasDistinctKeys = true := by
  induction items with
  | nil => simp [haveDistinctKeys]
  | cons item rest ih => simp [haveDistinctKeys, ih]

theorem partsHaveDistinctKeys_iff {entries : Entries} :
    partsHaveDistinctKeys entries = true ↔ ∀ entry ∈ entries,
      entry.1.hasDistinctKeys = true ∧ entry.2.hasDistinctKeys = true := by
  induction entries with
  | nil => simp [partsHaveDistinctKeys]
  | cons entry rest ih => simp [partsHaveDistinctKeys, ih]

@[simp] theorem hasDistinctKeys_sequence (items : List Value) :
    (Value.sequence items).hasDistinctKeys = true ↔ ∀ item ∈ items, item.hasDistinctKeys = true := by
  rw [hasDistinctKeys, haveDistinctKeys_iff]

@[simp] theorem hasDistinctKeys_mapping (entries : Entries) :
    (Value.mapping entries).hasDistinctKeys = true ↔ entries.Distinct ∧ ∀ entry ∈ entries,
      entry.1.hasDistinctKeys = true ∧ entry.2.hasDistinctKeys = true := by
  rw [hasDistinctKeys, Bool.and_eq_true, decide_eq_true_iff, partsHaveDistinctKeys_iff]

@[simp] theorem hasDistinctKeys_tagged (tag : String) (value : Value) :
    (Value.tagged tag value).hasDistinctKeys = value.hasDistinctKeys := by
  rw [hasDistinctKeys]

theorem hasDistinctKeys_untagged (value : Value) :
    value.untagged.hasDistinctKeys = value.hasDistinctKeys := by
  induction value using untagged.induct with
  | case1 tag value ih => rw [untagged, ih, hasDistinctKeys_tagged]
  | case2 value untaggedValue => rw [untagged]; exact untaggedValue

theorem distinct_of_entries? {value : Value} {entries : Entries}
    (distinct : value.hasDistinctKeys = true) (isMapping : value.entries? = some entries) :
    entries.Distinct ∧ ∀ entry ∈ entries, entry.2.hasDistinctKeys = true := by
  rw [← hasDistinctKeys_untagged] at distinct
  unfold entries? at isMapping
  split at isMapping
  · rename_i content isContent
    cases isMapping
    rw [isContent, hasDistinctKeys_mapping] at distinct
    exact ⟨distinct.1, fun entry member => (distinct.2 entry member).2⟩
  · cases isMapping

theorem distinct_of_items? {value : Value} {items : List Value}
    (distinct : value.hasDistinctKeys = true) (isSequence : value.items? = some items) :
    ∀ item ∈ items, item.hasDistinctKeys = true := by
  rw [← hasDistinctKeys_untagged] at distinct
  unfold items? at isSequence
  split at isSequence
  · rename_i content isContent
    cases isSequence
    rw [isContent, hasDistinctKeys_sequence] at distinct
    exact distinct
  · cases isSequence

end Value

/-!
## Reading
-/

namespace Composing

variable {α β : Type}

def Yields (computation : Composing α) (holds : α → Prop) : Prop :=
  ∀ left value after, computation left = .ok (value, after) → holds value

theorem Yields.bind {first : Composing α} {next : α → Composing β} {between : α → Prop}
    {holds : β → Prop} (yields : Yields first between)
    (follows : ∀ value, between value → Yields (next value) holds) :
    Yields (first >>= next) holds := by
  intro left result after run
  change (first left >>= fun answer => next answer.1 answer.2) = _ at run
  cases answered : first left with
  | error fault => simp [answered, Bind.bind, Except.bind] at run
  | ok answer =>
      simp only [answered, Bind.bind, Except.bind] at run
      exact follows answer.1 (yields left answer.1 answer.2 answered) answer.2 result after run

theorem Yields.pure {value : α} {holds : α → Prop} (held : holds value) :
    Yields (pure value) holds := by
  intro left result after run
  cases run
  exact held

theorem Yields.throw {fault : Fault} {holds : α → Prop} : Yields (throw fault) holds := by
  intro left result after run
  cases run

theorem Yields.lift {reading : Except Fault α} {holds : α → Prop}
    (held : ∀ value, reading = .ok value → holds value) :
    Yields (reading : Composing α) holds := by
  intro left result after run
  cases reading with
  | error fault => cases run
  | ok value =>
      cases run
      exact held _ rfl

theorem Yields.trivial (computation : Composing α) : Yields computation fun _ => True :=
  fun _ _ _ _ => .intro

theorem Yields.mapM {read : α → Composing β} {holds : β → Prop} {items : List α}
    (each : ∀ item ∈ items, Yields (read item) holds) :
    Yields (items.mapM read) fun values => ∀ value ∈ values, holds value := by
  induction items with
  | nil => exact .pure (by simp)
  | cons item rest ih =>
      rw [List.mapM_cons]
      refine (each item (by simp)).bind fun value held => ?_
      refine (ih fun item member => each item (by simp [member])).bind fun values held' => ?_
      exact .pure (List.forall_mem_cons.mpr ⟨held, held'⟩)

theorem Yields.foldlM {step : β → α → Composing β} {invariant : β → Prop} {items : List α}
    (each : ∀ item ∈ items, ∀ state, invariant state → Yields (step state item) invariant) {start : β}
    (held : invariant start) : Yields (items.foldlM step start) invariant := by
  induction items generalizing start with
  | nil => exact .pure held
  | cons item rest ih =>
      rw [List.foldlM_cons]
      refine (each item (by simp) start held).bind fun state held' => ?_
      exact ih (fun item member => each item (by simp [member])) held'

end Composing

namespace Scalar

private theorem plainValue_hasDistinctKeys {text : String} {value : Value}
    (isRead : plainValue text = .ok value) : value.hasDistinctKeys = true := by
  unfold plainValue at isRead
  repeat' split at isRead
  all_goals cases isRead
  all_goals rfl

private theorem coreValue_hasDistinctKeys {type : CoreType} {text : String} {value : Value}
    (isRead : coreValue type text = .ok value) : value.hasDistinctKeys = true := by
  unfold coreValue at isRead
  cases type with
  | bool =>
      simp only at isRead
      split at isRead
      · rename_i found isFound
        cases isRead
        obtain ⟨truth, _, rfl⟩ := Option.map_eq_some_iff.mp isFound
        rfl
      · cases isRead
  | integer =>
      simp only at isRead
      split at isRead
      · rename_i found isFound
        cases isRead
        obtain ⟨spelled, _, isNumber⟩ := Option.bind_eq_some_iff.mp isFound
        cases spelled with
        | fits number =>
            cases isNumber
            rfl
        | tooLarge => cases isNumber
      · cases isRead
  | float =>
      simp only at isRead
      split at isRead
      · rename_i found isFound
        cases isRead
        obtain ⟨number, _, rfl⟩ := Option.map_eq_some_iff.mp isFound
        rfl
      · cases isRead
  | null =>
      simp only at isRead
      split at isRead
      · rename_i found isFound
        cases isRead
        simp only [Option.ite_none_right_eq_some, Option.some.injEq] at isFound
        rw [← isFound.2]
        rfl
      · cases isRead

/-- A scalar holds no mapping. -/
theorem value_hasDistinctKeys {tag : Option (List UInt8)} {style : ScalarStyle} {text : String}
    {content : Value} (isRead : value tag style text = .ok content) :
    content.hasDistinctKeys = true := by
  unfold value at isRead
  split at isRead
  · split at isRead
    · exact plainValue_hasDistinctKeys isRead
    · cases isRead
      rfl
  · split at isRead
    · exact coreValue_hasDistinctKeys isRead
    · split at isRead
      · exact plainValue_hasDistinctKeys isRead
      · cases isRead
        rfl

end Scalar

theorem withTag_hasDistinctKeys (tag : Option String) (value : Value) :
    (withTag tag value).hasDistinctKeys = value.hasDistinctKeys := by
  cases tag with
  | none => rfl
  | some name => exact Value.hasDistinctKeys_tagged name value

/-- The entries of a mapping that is read so far, the last of which stands first. -/
private structure Fresh (read : Entries) : Prop where
  distinct : read.Pairwise fun later earlier => later.1.same earlier.1 = false
  parts : ∀ entry ∈ read, entry.1.hasDistinctKeys = true ∧ entry.2.hasDistinctKeys = true

private theorem Fresh.hasDistinctKeys {read : Entries} (fresh : Fresh read) :
    (Value.mapping read.reverse).hasDistinctKeys = true := by
  rw [Value.hasDistinctKeys_mapping, Entries.Distinct, List.pairwise_reverse]
  exact ⟨fresh.distinct, fun entry member => fresh.parts entry (List.mem_reverse.mp member)⟩

private theorem Fresh.addEntry {composeKey composeValue : Node Nat → Composing Value} {read : Entries}
    {entry : Node Nat × Node Nat} (fresh : Fresh read)
    (keys : Composing.Yields (composeKey entry.1) fun key => key.hasDistinctKeys = true)
    (values : Composing.Yields (composeValue entry.2) fun value => value.hasDistinctKeys = true) :
    Composing.Yields (addEntry composeKey composeValue read entry) Fresh := by
  refine keys.bind fun key isKey => ?_
  split
  · exact .throw
  · rename_i isNew
    refine values.bind fun value isValue => .pure ⟨?_, ?_⟩
    · refine List.pairwise_cons.mpr ⟨fun earlier member => ?_, fresh.distinct⟩
      simp only [holdsKey, Bool.not_eq_true, List.any_eq_false] at isNew
      simpa using isNew earlier member
    · exact List.forall_mem_cons.mpr ⟨⟨isKey, isValue⟩, fresh.parts⟩

private theorem composeScalar_hasDistinctKeys (tag : Option (List UInt8)) (style : ScalarStyle)
    (text : String) (name : Option String) :
    Composing.Yields (do
      let value ← (Scalar.value tag style text : Except Fault Value)
      pure (withTag name value)) fun value => value.hasDistinctKeys = true := by
  refine (Composing.Yields.lift fun _ => Scalar.value_hasDistinctKeys).bind fun value distinct => ?_
  refine .pure ?_
  rw [withTag_hasDistinctKeys]
  exact distinct

/-- A mapping is put together entry by entry, and each new key is compared with those before it. -/
theorem compose_hasDistinctKeys (places : Array (Option (Node Nat))) (depth : Nat) (isTagged : Bool)
    (node : Node Nat) :
    Composing.Yields (compose places depth isTagged node) fun value =>
      value.hasDistinctKeys = true := by
  induction depth generalizing isTagged node with
  | zero =>
      unfold compose
      refine (Composing.Yields.trivial _).bind fun resolved _ => ?_
      obtain ⟨target, isTagged⟩ := resolved
      cases target with
      | scalar => exact composeScalar_hasDistinctKeys _ _ _ _
      | _ => exact .throw
  | succ depth ih =>
      unfold compose
      refine (Composing.Yields.trivial _).bind fun resolved _ => ?_
      obtain ⟨target, isTagged⟩ := resolved
      cases target with
      | scalar => exact composeScalar_hasDistinctKeys _ _ _ _
      | sequence =>
          refine (Composing.Yields.mapM fun item _ => ih false item).bind fun items distinct => ?_
          refine .pure ?_
          rw [withTag_hasDistinctKeys, Value.hasDistinctKeys_sequence]
          exact distinct
      | mapping =>
          have start : Fresh [] := ⟨.nil, by simp⟩
          refine (Composing.Yields.foldlM (fun entry _ read (fresh : Fresh read) =>
            fresh.addEntry (ih _ entry.1) (ih false entry.2)) start).bind fun read fresh => ?_
          refine .pure ?_
          rw [withTag_hasDistinctKeys]
          exact fresh.hasDistinctKeys
      | _ => exact .throw

/-- In the value of a document no mapping holds a key twice. -/
theorem readValue?_hasDistinctKeys {bytes : ByteArray} {value : Value}
    (isRead : readValue? bytes = .ok value) : value.hasDistinctKeys = true := by
  unfold readValue? at isRead
  obtain ⟨read, _, isRead⟩ := Reading.bind_eq_ok_iff.mp isRead
  cases read with
  | none =>
      cases isRead
      rfl
  | some tree =>
      obtain ⟨⟨tree, names⟩, _, isRead⟩ := Reading.bind_eq_ok_iff.mp isRead
      obtain ⟨⟨composed, left⟩, isComposed, isRead⟩ := Reading.bind_eq_ok_iff.mp isRead
      cases isRead
      exact compose_hasDistinctKeys _ _ _ _ _ _ _ isComposed

end ClusterConfig.Yaml
