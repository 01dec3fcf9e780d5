import ClusterConfig.Template

set_option autoImplicit false

/-!
# Where placeholders stand

A placeholder stands at a position of a text if its source does, whatever surrounds it. No two
placeholders overlap, so that a text has one division at all of its placeholders; it is the one that the
reading from left to right finds.
-/

namespace ClusterConfig.Template

/-- A nonempty run of key characters. -/
structure IsKey (key : String) : Prop where
  nonempty : key.toList ≠ []
  characters : ∀ c ∈ key.toList, isKeyCharacter c = true

/-- The placeholder with the key stands at the position of the text. -/
structure OccursAt (text : List Char) (start : Nat) (key : String) : Prop where
  isKey : IsKey key
  stands : (Segment.placeholder key).source <+: text.drop start

variable {text rest after : List Char} {start : Nat} {key : String} {c : Char}

theorem source_placeholder (key : String) :
    (Segment.placeholder key).source = '\x7b' :: '\x7b' :: (key.toList ++ ['\x7d', '\x7d']) := rfl

theorem length_source_placeholder (key : String) :
    (Segment.placeholder key).source.length = key.toList.length + 4 := by
  simp [source_placeholder]

theorem placeholder?_source (isKey : IsKey key) (after : List Char) :
    placeholder? ((Segment.placeholder key).source ++ after) = some (key.toList, after) := by
  have keyOnly : ∀ c ∈ key.toList, isKeyCharacter c = true := isKey.characters
  have stops : isKeyCharacter '\x7d' = false := by decide
  rw [source_placeholder, List.cons_append, List.cons_append, List.append_assoc, placeholder?]
  rw [List.takeWhile_append_of_pos keyOnly, List.dropWhile_append_of_pos keyOnly]
  simp [stops, isKey.nonempty]

/-- A placeholder is recognised at the beginning of a text exactly if it stands there. -/
theorem placeholder?_eq_some_iff :
    placeholder? text = some (key.toList, after) ↔
      IsKey key ∧ text = (Segment.placeholder key).source ++ after := by
  constructor
  · intro found
    obtain ⟨whole, nonempty, characters⟩ := placeholder?_eq_some found
    refine ⟨⟨nonempty, characters⟩, ?_⟩
    simpa [source_placeholder] using whole
  · intro both
    obtain ⟨isKey, rfl⟩ := both
    exact placeholder?_source isKey after

/-- What is recognised at the beginning of a text is a key, and its placeholder stands there. -/
theorem exists_key_of_placeholder? {found : List Char} (begins : placeholder? text = some (found, after)) :
    ∃ key, found = key.toList ∧ IsKey key ∧ text = (Segment.placeholder key).source ++ after := by
  have isFound : found = (String.ofList found).toList := String.toList_ofList.symm
  rw [isFound] at begins
  exact ⟨_, isFound, placeholder?_eq_some_iff.mp begins⟩

theorem segments_nil : segments [] = [] := by
  rw [segments]
  rfl

theorem segments_source_append (isKey : IsKey key) (after : List Char) :
    segments ((Segment.placeholder key).source ++ after) = .placeholder key :: segments after := by
  have found := placeholder?_source isKey after
  rw [segments]
  split
  · rename_i foundKey behind isFound
    obtain ⟨rfl, rfl⟩ := Prod.mk.inj (Option.some.inj (found.symm.trans isFound))
    rw [String.ofList_toList]
  · rename_i absent
    rw [found] at absent
    cases absent

theorem segments_cons (absent : placeholder? (c :: rest) = none) :
    segments (c :: rest) = .literal c :: segments rest := by
  rw [segments]
  split
  · rename_i found
    rw [absent] at found
    cases found
  · rfl

/-- Induction along the segments of a text. -/
@[elab_as_elim]
theorem segments_induction {motive : List Char → Prop} (nil : motive [])
    (placeholder : ∀ key after, IsKey key → motive after → motive ((Segment.placeholder key).source ++ after))
    (literal : ∀ c rest, placeholder? (c :: rest) = none → motive rest → motive (c :: rest))
    (text : List Char) : motive text := by
  induction text using segments.induct with
  | case1 text found after begins _ ih =>
      obtain ⟨key, rfl, isKey, rfl⟩ := exists_key_of_placeholder? begins
      exact placeholder key after isKey ih
  | case2 => exact nil
  | case3 c rest absent ih => exact literal c rest absent ih

theorem occursAt_zero_iff : OccursAt text 0 key ↔ ∃ after, placeholder? text = some (key.toList, after) := by
  simp only [placeholder?_eq_some_iff]
  constructor
  · intro occurs
    obtain ⟨after, whole⟩ := occurs.stands
    exact ⟨after, occurs.isKey, whole.symm⟩
  · intro facts
    obtain ⟨after, isKey, whole⟩ := facts
    exact ⟨isKey, after, whole.symm⟩

theorem occursAt_add_iff {distance : Nat} :
    OccursAt text (start + distance) key ↔ OccursAt (text.drop start) distance key := by
  constructor
  · intro occurs
    exact ⟨occurs.isKey, by simpa [List.drop_drop] using occurs.stands⟩
  · intro occurs
    exact ⟨occurs.isKey, by simpa [List.drop_drop] using occurs.stands⟩

theorem not_occursAt_nil : ¬ OccursAt [] start key := by
  intro occurs
  have short := occurs.stands.length_le
  simp [length_source_placeholder] at short

theorem OccursAt.braces (occurs : OccursAt text start key) :
    ['\x7b', '\x7b'] <+: text.drop start := by
  obtain ⟨after, whole⟩ := occurs.stands
  exact ⟨key.toList ++ '\x7d' :: '\x7d' :: after, by simp [← whole, source_placeholder]⟩

/-- Inside a placeholder no other one begins: what follows its first brace does not begin with two, and
what follows its second brace has none before the closing ones. -/
theorem not_occursAt_inside {inner : String} (isKey : IsKey key) (inside : 0 < start)
    (before : start < (Segment.placeholder key).source.length) :
    ¬ OccursAt ((Segment.placeholder key).source ++ after) start inner := by
  intro occurs
  have braces := occurs.braces
  have keyBrace : '\x7b' ∉ key.toList := by
    intro member
    have isCharacter := isKey.characters _ member
    revert isCharacter
    decide
  obtain ⟨distance, rfl⟩ : ∃ distance, start = distance + 1 := ⟨start - 1, by omega⟩
  rw [length_source_placeholder] at before
  rw [source_placeholder, List.cons_append, List.drop_succ_cons] at braces
  cases distance with
  | zero =>
      obtain ⟨first, others, isCons⟩ := List.exists_cons_of_ne_nil isKey.nonempty
      have isBrace : first = '\x7b' := by
        simpa [isCons, List.cons_prefix_cons, eq_comm] using braces
      exact keyBrace (by simp [isCons, isBrace])
  | succ distance =>
      have within : distance < (key.toList ++ ['\x7d', '\x7d']).length := by
        simp only [List.length_append, List.length_cons, List.length_nil]
        omega
      rw [List.cons_append, List.drop_succ_cons, List.drop_append_of_le_length (by omega),
        List.drop_eq_getElem_cons within, List.cons_append, List.cons_prefix_cons] at braces
      have isBrace : '\x7b' ∈ key.toList ++ ['\x7d', '\x7d'] :=
        braces.1 ▸ List.getElem_mem within
      rcases List.mem_append.mp isBrace with inKey | isClosing
      · exact keyBrace inKey
      · revert isClosing
        decide

theorem OccursAt.ends_before {start' : Nat} {key' : String} (occurs : OccursAt text start key)
    (occurs' : OccursAt text start' key') (later : start < start') :
    start + (Segment.placeholder key).source.length ≤ start' := by
  refine Nat.le_of_not_lt fun short => ?_
  obtain ⟨after, whole⟩ := occurs.stands
  obtain ⟨distance, rfl⟩ := Nat.exists_eq_add_of_lt later
  rw [Nat.add_assoc, occursAt_add_iff, ← whole] at occurs'
  exact not_occursAt_inside occurs.isKey (by omega) (by omega) occurs'

theorem OccursAt.key_unique {key' : String} (occurs : OccursAt text start key)
    (occurs' : OccursAt text start key') : key = key' := by
  rw [← Nat.add_zero start, occursAt_add_iff, occursAt_zero_iff] at occurs occurs'
  obtain ⟨after, found⟩ := occurs
  obtain ⟨after', found'⟩ := occurs'
  have same := Option.some.inj (found.symm.trans found')
  exact String.toList_injective (congrArg Prod.fst same)

/-- Two placeholders of a text are the same or stand apart. -/
theorem OccursAt.apart {start' : Nat} {key' : String} (occurs : OccursAt text start key)
    (occurs' : OccursAt text start' key') :
    (start = start' ∧ key = key') ∨ start + (Segment.placeholder key).source.length ≤ start' ∨
      start' + (Segment.placeholder key').source.length ≤ start := by
  rcases Nat.lt_trichotomy start start' with later | rfl | earlier
  · exact .inr (.inl (occurs.ends_before occurs' later))
  · exact .inl ⟨rfl, occurs.key_unique occurs'⟩
  · exact .inr (.inr (occurs'.ends_before occurs earlier))

end ClusterConfig.Template
