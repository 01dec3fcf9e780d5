import ClusterConfig.Proofs.Text
import Mathlib.Tactic.ByContra

set_option autoImplicit false

/-!
# Texts with marks between them

Which texts are found again in the text that they make up with a mark between each two of them. Reading
ends a text at the first mark, so the mark must neither stand in a text nor come about where one ends.
-/

namespace ClusterConfig.Text

variable {mark item text : String} {items : List String}

/-- The mark stands somewhere in the text. -/
def Within (mark text : String) : Prop := ∃ before after, text = before ++ mark ++ after

/-- Where the mark is put behind the item, it stands nowhere before. -/
def EndsAt (mark item : String) : Prop :=
  ∀ before after, item ++ mark = before ++ mark ++ after → after = ""

/-- Items that the mark keeps apart: it stands in none of them, and behind each but the last one for the
first time. -/
structure Apart (mark : String) (items : List String) : Prop where
  without : ∀ item ∈ items, ¬ Within mark item
  ends : ∀ item ∈ items.dropLast, EndsAt mark item

/-- A mark does not stand in a text that lacks one of its characters. -/
theorem not_within_of_not_mem {c : Char} (inMark : c ∈ mark.toList) (absent : c ∉ text.toList) :
    ¬ Within mark text := by
  intro within
  obtain ⟨before, after, rfl⟩ := within
  simp [inMark] at absent

theorem eq_append_or_of_append_eq {first second third fourth : String}
    (same : first ++ second = third ++ fourth) :
    (∃ middle, third = first ++ middle ∧ second = middle ++ fourth) ∨
      ∃ middle, first = third ++ middle ∧ fourth = middle ++ second := by
  rw [← String.toList_inj, String.toList_append, String.toList_append, List.append_eq_append_iff] at same
  rcases same with ⟨middle, isThird, isSecond⟩ | ⟨middle, isFirst, isFourth⟩
  · refine .inl ⟨String.ofList middle, String.toList_injective ?_, String.toList_injective ?_⟩
    · simp [isThird]
    · simp [isSecond]
  · refine .inr ⟨String.ofList middle, String.toList_injective ?_, String.toList_injective ?_⟩
    · simp [isFirst]
    · simp [isFourth]

theorem EndsAt.not_within (ends : EndsAt mark item) (nonempty : mark ≠ "") : ¬ Within mark item := by
  intro within
  obtain ⟨before, after, rfl⟩ := within
  have rest := ends before (after ++ mark) (by simp only [String.append_assoc])
  exact nonempty (String.append_eq_empty_iff.mp rest).2

/-- Two texts that the mark ends are the same if they begin the same text. -/
theorem EndsAt.unique {item' after after' : String} (ends : EndsAt mark item) (ends' : EndsAt mark item')
    (same : item ++ mark ++ after = item' ++ mark ++ after') : item = item' ∧ after = after' := by
  rcases eq_append_or_of_append_eq same with ⟨middle, isLonger, isRest⟩ | ⟨middle, isLonger, isRest⟩
  · obtain rfl := ends' item middle isLonger
    rw [String.append_empty] at isLonger
    exact ⟨((String.append_left_inj mark).mp isLonger).symm, by simpa using isRest⟩
  · obtain rfl := ends item' middle isLonger
    rw [String.append_empty] at isLonger
    exact ⟨(String.append_left_inj mark).mp isLonger, by simpa using isRest.symm⟩

/-- A mark that begins within the item, and not where it ends, overlaps the mark behind the item. -/
theorem exists_overlap {before after : String} (without : ¬ Within mark item)
    (same : item ++ mark = before ++ mark ++ after) (nonempty : after ≠ "") :
    ∃ ending start, item = before ++ ending ∧ ending ≠ "" ∧ start ≠ "" ∧
      mark = ending ++ start ∧ mark = start ++ after := by
  have positive : after.length ≠ 0 := by rwa [ne_eq, String.length_eq_zero_iff]
  rcases eq_append_or_of_append_eq same with ⟨start, isLonger, isMark⟩ | ⟨rest, isItem, _⟩
  · rcases eq_append_or_of_append_eq isLonger.symm with ⟨middle, _, isStart⟩ | ⟨ending, isItem, isMark'⟩
    · have sizes := congrArg String.length (isStart ▸ isMark)
      simp only [String.length_append] at sizes
      omega
    · refine ⟨ending, start, isItem, ?_, ?_, isMark', isMark⟩
      · intro empty
        have sizes := congrArg String.length (isMark'.symm.trans isMark)
        simp only [empty, String.length_append, String.length_empty] at sizes
        omega
      · intro empty
        rw [empty, String.append_empty] at isMark'
        exact without ⟨before, "", by rw [isItem, isMark', String.append_empty]⟩
  · exact absurd ⟨before, rest, isItem⟩ without

/-- A mark that begins with a character which it has nowhere else does not overlap itself. -/
theorem endsAt_iff_not_within {first : Char} {rest : List Char} (isMark : mark.toList = first :: rest)
    (alone : first ∉ rest) : EndsAt mark item ↔ ¬ Within mark item := by
  constructor
  · intro ends
    refine ends.not_within fun empty => ?_
    simp [empty] at isMark
  · intro without before after same
    by_contra nonempty
    obtain ⟨ending, start, _, someEnding, someStart, isEnding, isStart⟩ := exists_overlap without same nonempty
    obtain ⟨c, others, isList⟩ := List.exists_cons_of_ne_nil (mt String.toList_eq_nil_iff.mp someStart)
    obtain ⟨c', others', isList'⟩ := List.exists_cons_of_ne_nil (mt String.toList_eq_nil_iff.mp someEnding)
    have atStart := congrArg String.toList isStart
    have atEnding := congrArg String.toList isEnding
    rw [String.toList_append, isMark, isList, List.cons_append, List.cons.injEq] at atStart
    rw [String.toList_append, isMark, isList, isList', List.cons_append, List.cons.injEq] at atEnding
    refine alone ?_
    rw [atEnding.2, atStart.1]
    exact List.mem_append_right _ List.mem_cons_self

theorem apart_iff_forall_not_within {first : Char} {rest : List Char} (isMark : mark.toList = first :: rest)
    (alone : first ∉ rest) : Apart mark items ↔ ∀ item ∈ items, ¬ Within mark item := by
  refine ⟨Apart.without, fun without => ⟨without, fun item member => ?_⟩⟩
  exact (endsAt_iff_not_within isMark alone).mpr (without item (List.dropLast_subset items member))

theorem Apart.tail {next : String} {rest : List String} (apart : Apart mark (item :: next :: rest)) :
    EndsAt mark item ∧ Apart mark (next :: rest) := by
  obtain ⟨without, ends⟩ := apart
  rw [List.dropLast_cons_cons, List.forall_mem_cons] at ends
  exact ⟨ends.1, (List.forall_mem_cons.mp without).2, ends.2⟩

theorem Apart.cons {next : String} {rest : List String} (nonempty : mark ≠ "") (ends : EndsAt mark item)
    (apart : Apart mark (next :: rest)) : Apart mark (item :: next :: rest) := by
  refine ⟨List.forall_mem_cons.mpr ⟨ends.not_within nonempty, apart.without⟩, ?_⟩
  rw [List.dropLast_cons_cons]
  exact List.forall_mem_cons.mpr ⟨ends, apart.ends⟩

theorem Apart.ne_join {next : String} {rest : List String} (apart : Apart mark [text]) :
    text ≠ join mark (item :: next :: rest) := by
  intro same
  rw [join_cons_cons] at same
  exact apart.without text List.mem_cons_self ⟨item, _, same⟩

/-- Items that a mark keeps apart are determined by the text that they make up. -/
theorem Apart.eq_of_join {left right : List String} (apart : Apart mark left) (apart' : Apart mark right)
    (present : left ≠ []) (present' : right ≠ []) (same : join mark left = join mark right) :
    left = right := by
  induction left generalizing right with
  | nil => exact absurd rfl present
  | cons item rest ih =>
      obtain ⟨item', rest', rfl⟩ := List.exists_cons_of_ne_nil present'
      cases rest with
      | nil =>
          cases rest' with
          | nil => exact congrArg (fun text => [text]) same
          | cons next' rest' => exact absurd same apart.ne_join
      | cons next rest =>
          cases rest' with
          | nil => exact absurd same.symm apart'.ne_join
          | cons next' rest' =>
              rw [join_cons_cons, join_cons_cons] at same
              obtain ⟨rfl, sameRest⟩ := apart.tail.1.unique apart'.tail.1 same
              have others := ih apart.tail.2 apart'.tail.2 (List.cons_ne_nil _ _) (List.cons_ne_nil _ _) sameRest
              rw [others]

/-- In a text with the mark in it there is a first one. -/
theorem exists_endsAt {before after : String} (isText : text = before ++ mark ++ after) :
    ∃ first rest, text = first ++ mark ++ rest ∧ EndsAt mark first := by
  induction size : before.length using Nat.strongRecOn generalizing before after with
  | ind length ih =>
      by_cases ends : EndsAt mark before
      · exact ⟨before, after, isText, ends⟩
      · simp only [EndsAt, Classical.not_forall] at ends
        obtain ⟨earlier, between, isBefore, nonempty⟩ := ends
        have shorter : earlier.length < length := by
          have sizes := congrArg String.length isBefore
          have positive : between.length ≠ 0 := by rwa [ne_eq, String.length_eq_zero_iff]
          simp only [String.length_append] at sizes
          omega
        have isText' : text = earlier ++ mark ++ (between ++ after) := by
          rw [isText, isBefore, String.append_assoc]
        exact ih earlier.length shorter isText' rfl

/-- Every text is made up of items that the mark keeps apart. -/
theorem exists_apart (nonempty : mark ≠ "") (text : String) :
    ∃ items, items ≠ [] ∧ Apart mark items ∧ join mark items = text := by
  induction size : text.length using Nat.strongRecOn generalizing text with
  | ind length ih =>
      by_cases within : Within mark text
      · obtain ⟨before, after, isText⟩ := within
        obtain ⟨first, rest, rfl, ends⟩ := exists_endsAt isText
        have shorter : rest.length < length := by
          have positive : mark.length ≠ 0 := by rwa [ne_eq, String.length_eq_zero_iff]
          simp only [String.length_append] at size
          omega
        obtain ⟨items, present, apart, isRest⟩ := ih rest.length shorter rest rfl
        obtain ⟨next, others, rfl⟩ := List.exists_cons_of_ne_nil present
        exact ⟨first :: next :: others, List.cons_ne_nil _ _, apart.cons nonempty ends,
          by rw [join_cons_cons, isRest]⟩
      · refine ⟨[text], List.cons_ne_nil _ _, ⟨by simpa using within, by simp⟩, rfl⟩

end ClusterConfig.Text
