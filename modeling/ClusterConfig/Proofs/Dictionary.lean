import ClusterConfig.Dictionary

set_option autoImplicit false

/-!
# Laws of dictionaries

What is found in a dictionary after insertions, and that nothing else distinguishes two dictionaries.
-/

namespace ClusterConfig.Dictionary

variable {α : Type}

theorem lookup_cons_if (key other : String) (value : α) (rest : List (String × α)) :
    ((key, value) :: rest).lookup other = if other = key then some value else rest.lookup other := by
  rw [List.lookup_cons]
  cases same : other == key <;> simp_all

private theorem lookup_insertEntry {key other : String} {value : α} {entries : List (String × α)} :
    (insertEntry key value entries).lookup other =
      if other = key then some value else entries.lookup other := by
  induction entries with
  | nil => simp only [insertEntry, lookup_cons_if]
  | cons head rest ih =>
      obtain ⟨present, content⟩ := head
      simp only [insertEntry]
      split
      · simp only [lookup_cons_if]
      · rename_i notBefore
        split
        · rename_i after
          have distinct : key ≠ present := by
            intro equal
            subst equal
            exact String.lt_irrefl key after
          simp only [lookup_cons_if, ih]
          by_cases same : other = key <;> simp [same, distinct]
        · rename_i notAfter
          have equal : key = present :=
            String.le_antisymm (String.not_lt.mp notAfter) (String.not_lt.mp notBefore)
          simp only [lookup_cons_if, ← equal]
          by_cases same : other = key <;> simp [same]

/-- Insertion changes what is found under one key only. -/
theorem get?_insert (key other : String) (value : α) (dictionary : Dictionary α) :
    (dictionary.insert key value).get? other =
      if other = key then some value else dictionary.get? other :=
  lookup_insertEntry

/-- Of several insertions under a key the last one counts. -/
theorem get?_insertAll (key : String) (additions : List (String × α)) (dictionary : Dictionary α) :
    (dictionary.insertAll additions).get? key =
      (additions.reverse.lookup key).or (dictionary.get? key) := by
  induction additions generalizing dictionary with
  | nil => simp [insertAll]
  | cons addition rest ih =>
      obtain ⟨added, value⟩ := addition
      have step : dictionary.insertAll ((added, value) :: rest) =
          (dictionary.insert added value).insertAll rest := rfl
      rw [step, ih, get?_insert, List.reverse_cons, List.lookup_append, lookup_cons_if, Option.or_assoc]
      by_cases same : key = added <;> simp [same]

theorem get?_ofList (key : String) (entries : List (String × α)) :
    (ofList entries).get? key = entries.reverse.lookup key := by
  rw [ofList, get?_insertAll]
  exact Option.or_none

/-- An entry that comes after all others is put at the end. -/
theorem insertEntry_of_above {key : String} {value : α} {entries : List (String × α)}
    (above : ∀ entry ∈ entries, entry.1 < key) :
    insertEntry key value entries = entries ++ [(key, value)] := by
  induction entries with
  | nil => rfl
  | cons head rest ih =>
      have first : head.1 < key := above head List.mem_cons_self
      have later := ih fun entry member => above entry (List.mem_cons_of_mem head member)
      rw [insertEntry, if_neg (String.lt_asymm first), if_pos first, later, List.cons_append]

theorem entries_insertAll {additions : List (String × α)} {dictionary : Dictionary α}
    (sorted : (dictionary.entries ++ additions).Pairwise fun left right => left.1 < right.1) :
    (dictionary.insertAll additions).entries = dictionary.entries ++ additions := by
  induction additions generalizing dictionary with
  | nil => rw [List.append_nil, insertAll, List.foldl_nil]
  | cons addition rest ih =>
      obtain ⟨key, value⟩ := addition
      have above : ∀ entry ∈ dictionary.entries, entry.1 < key := fun entry member =>
        (List.pairwise_append.mp sorted).2.2 entry member (key, value) List.mem_cons_self
      have isLast : (dictionary.insert key value).entries = dictionary.entries ++ [(key, value)] :=
        insertEntry_of_above above
      have step : dictionary.insertAll ((key, value) :: rest) =
          (dictionary.insert key value).insertAll rest := rfl
      rw [step, ih]
      · rw [isLast, List.append_assoc, List.singleton_append]
      · rwa [isLast, List.append_assoc, List.singleton_append]

/-- Entries that are given in the order of their keys are kept as they are. -/
theorem entries_ofList {entries : List (String × α)}
    (sorted : entries.Pairwise fun left right => left.1 < right.1) :
    (ofList entries).entries = entries :=
  entries_insertAll sorted

/-- What overrides a dictionary is found first. -/
theorem get?_override (key : String) (base additions : Dictionary α) :
    (base.override additions).get? key = (additions.get? key).or (base.get? key) := by
  have ordered : additions.entries.reverse.lookup key = additions.get? key := by
    rw [← get?_ofList, get?, entries_ofList additions.sorted, get?]
  rw [override, get?_insertAll, ordered]

theorem mem_iff_get? {dictionary : Dictionary α} {entry : String × α} :
    entry ∈ dictionary.entries ↔ dictionary.get? entry.1 = some entry.2 := by
  obtain ⟨entries, sorted⟩ := dictionary
  simp only [get?]
  induction entries with
  | nil => simp
  | cons head rest ih =>
      obtain ⟨key, value⟩ := entry
      obtain ⟨present, content⟩ := head
      obtain ⟨first, later⟩ := List.pairwise_cons.mp sorted
      rw [List.mem_cons, ih later, lookup_cons_if]
      by_cases same : key = present
      · subst same
        have absent : rest.lookup key = none := by
          refine List.lookup_eq_none_iff.mpr fun entry member => ?_
          have above := first entry member
          simp only [bne_iff_ne, ne_eq]
          intro equal
          subst equal
          exact String.lt_irrefl _ above
        simp [absent, eq_comm]
      · simp [same]

theorem nodup_keys (dictionary : Dictionary α) : (dictionary.entries.map Prod.fst).Nodup := by
  refine List.pairwise_map.mpr (dictionary.sorted.imp fun {before after} above equal => ?_)
  rw [equal] at above
  exact String.lt_irrefl _ above

theorem nodup_entries (dictionary : Dictionary α) : dictionary.entries.Nodup :=
  List.Pairwise.of_map Prod.fst (fun _ _ differ same => differ (congrArg Prod.fst same)) dictionary.nodup_keys

theorem mem_keys_iff {dictionary : Dictionary α} {key : String} :
    key ∈ dictionary.entries.map Prod.fst ↔ (dictionary.get? key).isSome := by
  rw [List.mem_map, Option.isSome_iff_exists]
  constructor
  · intro held
    obtain ⟨entry, member, rfl⟩ := held
    exact ⟨entry.2, mem_iff_get?.mp member⟩
  · intro found
    obtain ⟨value, isValue⟩ := found
    exact ⟨(key, value), mem_iff_get?.mpr isValue, rfl⟩

/-- Dictionaries in which the same is found under every key are equal. -/
theorem ext_get? {left right : Dictionary α} (same : ∀ key, left.get? key = right.get? key) :
    left = right := by
  have perm : left.entries.Perm right.entries := by
    rw [List.perm_ext_iff_of_nodup left.nodup_entries right.nodup_entries]
    intro entry
    rw [mem_iff_get?, mem_iff_get?, same]
  have equal : left.entries = right.entries :=
    List.Perm.eq_of_pairwise
      (fun before after _ _ above below =>
        (String.lt_irrefl _ (String.lt_trans above below)).elim)
      left.sorted right.sorted perm
  cases left
  cases right
  cases equal
  rfl

end ClusterConfig.Dictionary
