import ClusterConfig.Text.Blank
import ClusterConfig.Text.Split

set_option autoImplicit false

/-!
# Laws of taking texts apart

Splitting a text at a character undoes joining texts that do not hold it, and the parts on both sides of a
first separator and before a known ending are determined.
-/

namespace ClusterConfig.Text

variable {separator : Char}

theorem pieces_eq_splitOn (separator : Char) (text : List Char) :
    pieces separator text = text.splitOn separator := by
  rw [List.splitOn_eq_splitOnP]
  induction text with
  | nil => rfl
  | cons c rest ih =>
      rw [List.splitOnP_cons_eq_if_modifyHead, pieces, ih]
      by_cases same : c = separator
      · simp [same]
      · obtain ⟨first, others, isSplit⟩ :=
          List.exists_cons_of_ne_nil (List.splitOnP_ne_nil (· == separator) rest)
        simp [same, isSplit]

theorem pieces_ne_nil (text : List Char) : pieces separator text ≠ [] := by
  rw [pieces_eq_splitOn, List.splitOn_eq_splitOnP]
  exact List.splitOnP_ne_nil (· == separator) text

theorem pieces_append_cons (before after : List Char) :
    pieces separator (before ++ separator :: after) =
      pieces separator before ++ pieces separator after := by
  simp only [pieces_eq_splitOn, List.splitOn_eq_splitOnP]
  exact List.splitOnP_append_cons before after (beq_self_eq_true separator)

theorem pieces_of_not_mem {text : List Char} (absent : separator ∉ text) :
    pieces separator text = [text] := by
  rw [pieces_eq_splitOn, List.splitOn_eq_splitOnP]
  refine List.splitOnP_eq_singleton fun c member => ?_
  have differs : c ≠ separator := ne_of_mem_of_not_mem member absent
  simpa using differs

theorem mem_pieces_of_between {piece : List Char} (absent : separator ∉ piece) (before after : List Char) :
    piece ∈ pieces separator (before ++ separator :: (piece ++ separator :: after)) := by
  rw [pieces_append_cons, pieces_append_cons, pieces_of_not_mem absent]
  exact List.mem_append_right _ List.mem_cons_self

theorem length_pieces (text : List Char) :
    (pieces separator text).length = text.count separator + 1 := by
  induction text with
  | nil => rfl
  | cons c rest ih =>
      rw [pieces]
      by_cases same : c = separator
      · rw [if_pos same, List.length_cons, ih, same, List.count_cons_self]
      · rw [if_neg same, List.count_cons_of_ne same, ← ih]
        cases isSplit : pieces separator rest with
        | nil => exact absurd isSplit (pieces_ne_nil rest)
        | cons first others => rfl

theorem pieces_lines {lines : List (List Char)} (absent : ∀ line ∈ lines, separator ∉ line) :
    pieces separator (lines.flatMap (· ++ [separator])) = lines ++ [[]] := by
  induction lines with
  | nil => rfl
  | cons line rest ih =>
      obtain ⟨notInLine, notInRest⟩ := List.forall_mem_cons.mp absent
      rw [List.flatMap_cons, List.append_assoc, List.singleton_append, pieces_append_cons,
        pieces_of_not_mem notInLine, ih notInRest]
      rfl

theorem length_le_count_lines (separator : Char) (lines : List (List Char)) :
    lines.length ≤ (lines.flatMap (· ++ [separator])).count separator := by
  induction lines with
  | nil => exact Nat.zero_le _
  | cons line rest ih =>
      rw [List.flatMap_cons, List.count_append, List.count_append, List.count_singleton_self, List.length_cons]
      omega

theorem not_mem_of_count_lines {lines : List (List Char)}
    (same : (lines.flatMap (· ++ [separator])).count separator = lines.length) :
    ∀ line ∈ lines, separator ∉ line := by
  induction lines with
  | nil => exact fun _ member => absurd member List.not_mem_nil
  | cons line rest ih =>
      have others := length_le_count_lines separator rest
      rw [List.flatMap_cons, List.count_append, List.count_append, List.count_singleton_self, List.length_cons]
        at same
      rw [List.forall_mem_cons]
      refine ⟨List.count_eq_zero.mp ?_, ih ?_⟩
      · omega
      · omega

/-- There are as many pieces as there were lines only if no line holds a separator: each one that a line
holds is a piece more. -/
theorem not_mem_of_length_pieces {lines : List (List Char)}
    (same : (pieces separator (lines.flatMap (· ++ [separator]))).length = lines.length + 1) :
    ∀ line ∈ lines, separator ∉ line := by
  rw [length_pieces, Nat.add_right_cancel_iff] at same
  exact not_mem_of_count_lines same

theorem toList_join (separator : String) (texts : List String) :
    (join separator texts).toList = separator.toList.intercalate (texts.map String.toList) :=
  String.toList_intercalate

theorem pieces_join {texts : List String} (present : texts ≠ [])
    (absent : ∀ text ∈ texts, separator ∉ text.toList) :
    (pieces separator (join (String.singleton separator) texts).toList).map String.ofList = texts := by
  rw [pieces_eq_splitOn, toList_join, String.toList_singleton, List.splitOn_intercalate]
  · simp
  · intro part member
    obtain ⟨text, isText, rfl⟩ := List.mem_map.mp member
    exact absent text isText
  · simpa using present

/-- Joining undoes splitting. -/
theorem join_pieces (text : String) :
    join (String.singleton separator) ((pieces separator text.toList).map String.ofList) = text := by
  refine String.toList_injective ?_
  rw [toList_join, pieces_eq_splitOn, List.map_map]
  simp

theorem join_cons_cons (separator first second : String) (rest : List String) :
    join separator (first :: second :: rest) =
      first ++ separator ++ join separator (second :: rest) := by
  refine String.toList_injective ?_
  simp [toList_join, List.intercalate_cons_cons]

theorem join_append (mark : String) {front back : List String} (before : front ≠ []) (after : back ≠ []) :
    join mark (front ++ back) = join mark front ++ mark ++ join mark back := by
  obtain ⟨next, others, rfl⟩ := List.exists_cons_of_ne_nil after
  induction front with
  | nil => exact absurd rfl before
  | cons first rest ih =>
      cases rest with
      | nil =>
          rw [List.singleton_append, join_cons_cons]
          rfl
      | cons second rest =>
          rw [List.cons_append, List.cons_append, join_cons_cons, ← List.cons_append, ih (List.cons_ne_nil _ _),
            join_cons_cons]
          simp only [String.append_assoc]

/-- What joined texts hold comes from one of them or separates them. -/
theorem mem_join_iff {c : Char} {mark : String} {texts : List String} (foreign : c ∉ mark.toList) :
    c ∈ (join mark texts).toList ↔ ∃ text ∈ texts, c ∈ text.toList := by
  induction texts with
  | nil => simp [join]
  | cons first rest ih =>
      cases rest with
      | nil => simp [toList_join]
      | cons second rest =>
          rw [join_cons_cons, String.toList_append, String.toList_append, List.mem_append,
            List.mem_append, ih]
          simp only [foreign, or_false, List.mem_cons, exists_eq_or_imp]

theorem splitFirst?_append {before after : List Char} (absent : separator ∉ before) :
    splitFirst? separator (before ++ separator :: after) = some (before, after) := by
  induction before with
  | nil => simp [splitFirst?]
  | cons c rest ih =>
      obtain ⟨differs, absent⟩ := List.ne_and_not_mem_of_not_mem_cons absent
      simp [splitFirst?, Ne.symm differs, ih absent]

theorem splitAtFirst?_eq_some_iff {text before after : String} :
    splitAtFirst? separator text = some (before, after) ↔
      text = before ++ String.singleton separator ++ after ∧ separator ∉ before.toList := by
  rw [splitAtFirst?, Option.map_eq_some_iff]
  constructor
  · intro split
    obtain ⟨⟨front, back⟩, found, equal⟩ := split
    obtain ⟨rfl, rfl⟩ := Prod.mk.inj equal
    obtain ⟨whole, absent⟩ := splitFirst?_eq_some found
    refine ⟨String.toList_injective ?_, by simpa using absent⟩
    simp [whole]
  · intro both
    obtain ⟨rfl, absent⟩ := both
    refine ⟨(before.toList, after.toList), ?_, by simp⟩
    simpa using splitFirst?_append absent

/-- Only white space is removed from the end of a text. -/
theorem mem_trimEnd {c : Char} {text : String} (visible : isWhiteSpace c = false) (member : c ∈ text.toList) :
    c ∈ (trimEnd text).toList := by
  rw [trimEnd, String.toList_ofList, List.mem_reverse]
  rw [← List.mem_reverse, ← List.takeWhile_append_dropWhile (p := isWhiteSpace) (l := text.toList.reverse)]
    at member
  cases List.mem_append.mp member with
  | inl removed =>
      have isWhite := List.all_eq_true.mp List.all_takeWhile c removed
      rw [visible] at isWhite
      cases isWhite
  | inr kept => exact kept

theorem withoutSuffix?_eq_some_iff {ending text kept : String} :
    withoutSuffix? ending text = some kept ↔ text = kept ++ ending := by
  simp only [withoutSuffix?]
  constructor
  · intro isKept
    split at isKept
    · rename_i isSuffix
      obtain ⟨front, whole⟩ := isSuffix
      obtain rfl := Option.some.inj isKept
      refine String.toList_injective ?_
      simp [← whole, ← String.length_toList]
    · cases isKept
  · intro whole
    subst whole
    simp [← String.length_toList]

theorem withoutSuffix?_eq_none_iff {ending text : String} :
    withoutSuffix? ending text = none ↔ ∀ kept, text ≠ kept ++ ending := by
  rw [Option.eq_none_iff_forall_ne_some]
  exact forall_congr' fun kept => not_congr withoutSuffix?_eq_some_iff

end ClusterConfig.Text
