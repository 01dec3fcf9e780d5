import ClusterConfig.Proofs.Template.Composition

set_option autoImplicit false

/-!
# Placeholders that arise

A text is rendered in one pass: what a placeholder gives way to is not read again. Where no value holds a
brace, a placeholder can stand in the result only if braces of the text that belong to no placeholder have
closed in around what was rendered between them. Without such braces a rendering is final.
-/

namespace ClusterConfig.Template

/-- The characters that segments make up with the values of their keys. -/
inductive Fills (values : Dictionary String) : List Segment → List Char → Prop where
  | nil : Fills values [] []
  | literal {c rest filled} : Fills values rest filled → Fills values (.literal c :: rest) (c :: filled)
  | placeholder {key value rest filled} : values.get? key = some value → Fills values rest filled →
      Fills values (.placeholder key :: rest) (value.toList ++ filled)

variable {values : Dictionary String} {parts front back : List Segment} {filled before after : List Char}
  {text : List Char} {key : String} {c : Char}

theorem mapM_fill_eq_ok_iff :
    (∃ pieces, parts.mapM (Segment.fill values) = .ok pieces ∧ pieces.flatten = filled) ↔
      Fills values parts filled := by
  simp only [Reading.mapM_eq_ok_iff]
  constructor
  · intro facts
    obtain ⟨pieces, related, rfl⟩ := facts
    induction related with
    | nil => exact .nil
    | @cons part piece parts pieces first _ ih =>
        cases part with
        | literal c =>
            cases first
            exact .literal ih
        | placeholder key =>
            obtain ⟨value, found, rfl⟩ := fill_placeholder_eq_ok_iff.mp first
            exact .placeholder found ih
  · intro fills
    induction fills with
    | nil => exact ⟨[], .nil, rfl⟩
    | @literal c _ _ _ ih =>
        obtain ⟨pieces, related, rfl⟩ := ih
        exact ⟨[c] :: pieces, .cons rfl related, rfl⟩
    | @placeholder key value _ _ found _ ih =>
        obtain ⟨pieces, related, rfl⟩ := ih
        exact ⟨value.toList :: pieces, .cons (fill_placeholder_eq_ok_iff.mpr ⟨value, found, rfl⟩) related, rfl⟩

theorem render_eq_ok_iff {text result : String} :
    render values text = .ok result ↔ Fills values (segments text.toList) result.toList := by
  rw [← mapM_fill_eq_ok_iff]
  simp only [render, Reading.bind_eq_ok_iff, Reading.pure_eq_ok_iff]
  refine exists_congr fun pieces => and_congr_right fun _ => ?_
  constructor
  · intro isResult
    rw [← isResult, String.toList_ofList]
  · intro isResult
    rw [isResult, String.ofList_toList]

theorem Fills.append {filled' : List Char} (first : Fills values front filled) (second : Fills values back filled') :
    Fills values (front ++ back) (filled ++ filled') := by
  induction first with
  | nil => exact second
  | literal _ ih => exact .literal ih
  | placeholder found _ ih =>
      rw [List.append_assoc]
      exact .placeholder found ih

/-- A character that no value holds comes from the text itself. -/
theorem Fills.exists_literal (fills : Fills values parts (before ++ c :: after))
    (foreign : ∀ key value, values.get? key = some value → c ∉ value.toList) :
    ∃ front back, parts = front ++ .literal c :: back ∧ Fills values front before ∧ Fills values back after := by
  generalize whole : before ++ c :: after = filled at fills
  induction fills generalizing before with
  | nil => simp at whole
  | @literal d rest filled later ih =>
      cases before with
      | nil =>
          obtain ⟨rfl, rfl⟩ := List.cons.inj whole
          exact ⟨[], rest, rfl, .nil, later⟩
      | cons b before =>
          obtain ⟨rfl, others⟩ := List.cons.inj whole
          obtain ⟨front, back, rfl, isFront, isBack⟩ := ih others
          exact ⟨.literal b :: front, back, rfl, .literal isFront, isBack⟩
  | @placeholder key value rest filled found later ih =>
      obtain ⟨before, rfl, isFilled⟩ : ∃ others, before = value.toList ++ others ∧ others ++ c :: after = filled := by
        rcases List.append_eq_append_iff.mp whole with ⟨ending, isValue, isRest⟩ | ⟨others, isBefore, isFilled⟩
        · cases ending with
          | nil => exact ⟨[], by simpa using isValue.symm, by simpa using isRest⟩
          | cons d ending =>
              obtain ⟨rfl, _⟩ := List.cons.inj isRest
              exact absurd (isValue ▸ List.mem_append_right before List.mem_cons_self) (foreign key value found)
        · exact ⟨others, isBefore, isFilled.symm⟩
      obtain ⟨front, back, rfl, isFront, isBack⟩ := ih isFilled
      exact ⟨.placeholder key :: front, back, rfl, .placeholder found isFront, isBack⟩

/-- Some of the segments of a text, from its beginning or to its end, are the segments of their source. -/
theorem segments_source_of_append (whole : segments text = front ++ back) :
    segments (front.flatMap Segment.source) = front ∧ segments (back.flatMap Segment.source) = back := by
  induction text using segments_induction generalizing front with
  | nil =>
      rw [segments_nil] at whole
      obtain ⟨rfl, rfl⟩ := List.append_eq_nil_iff.mp whole.symm
      exact ⟨segments_nil, segments_nil⟩
  | placeholder key after isKey ih =>
      cases front with
      | nil =>
          rw [List.nil_append] at whole
          rw [← whole, source_segments]
          exact ⟨segments_nil, rfl⟩
      | cons part front =>
          rw [segments_source_append isKey, List.cons_append] at whole
          obtain ⟨rfl, others⟩ := List.cons.inj whole
          obtain ⟨isFront, isBack⟩ := ih others
          rw [List.flatMap_cons, segments_source_append isKey, isFront]
          exact ⟨rfl, isBack⟩
  | literal c rest absent ih =>
      cases front with
      | nil =>
          rw [List.nil_append] at whole
          rw [← whole, source_segments]
          exact ⟨segments_nil, rfl⟩
      | cons part front =>
          rw [segments_cons absent, List.cons_append] at whole
          obtain ⟨rfl, others⟩ := List.cons.inj whole
          obtain ⟨isFront, isBack⟩ := ih others
          have isRest : front.flatMap Segment.source ++ back.flatMap Segment.source = rest := by
            rw [← List.flatMap_append, ← others, source_segments]
          have notFirst : placeholder? (c :: front.flatMap Segment.source) = none := by
            cases begins : placeholder? (c :: front.flatMap Segment.source) with
            | none => rfl
            | some found =>
                have begins' := placeholder?_append begins (back.flatMap Segment.source)
                rw [List.cons_append, isRest, absent] at begins'
                cases begins'
          refine ⟨?_, isBack⟩
          change segments (c :: front.flatMap Segment.source) = _
          rw [segments_cons notFirst, isFront]

theorem source_append (whole : segments text = front ++ back) :
    front.flatMap Segment.source ++ back.flatMap Segment.source = text := by
  rw [← List.flatMap_append, ← whole, source_segments]

theorem uncut_source (whole : segments text = front ++ back) :
    Uncut text (front.flatMap Segment.source).length := by
  obtain ⟨isFront, isBack⟩ := segments_source_of_append whole
  rw [← source_append whole]
  refine segments_append_iff.mp ?_
  rw [source_append whole, whole, isFront, isBack]

theorem Fills.literal_mem (fills : Fills values parts filled)
    (foreign : ∀ key value, values.get? key = some value → c ∉ value.toList) (member : c ∈ filled) :
    .literal c ∈ parts := by
  obtain ⟨before, after, rfl⟩ := List.append_of_mem member
  obtain ⟨front, back, rfl, _, _⟩ := fills.exists_literal foreign
  simp

/-- Wherever the character stands in the text, it belongs to a placeholder. -/
def Enclosed (c : Char) (text : List Char) : Prop :=
  ∀ place, text[place]? = some c → ∃ start key, OccursAt text start key ∧ start ≤ place ∧
    place < start + (Segment.placeholder key).source.length

theorem Enclosed.literal_not_mem (enclosed : Enclosed c text) : .literal c ∉ segments text := by
  intro member
  obtain ⟨front, back, whole⟩ := List.append_of_mem member
  have isText := source_append whole
  have stands : text[(front.flatMap Segment.source).length]? = some c := by
    rw [← isText, List.getElem?_append_right (Nat.le_refl _), Nat.sub_self]
    rfl
  obtain ⟨start, key, occurs, begun, within⟩ := enclosed _ stands
  cases uncut_source whole start key occurs with
  | inl before => exact absurd within (Nat.not_lt.mpr before)
  | inr behind =>
      obtain rfl := Nat.le_antisymm begun behind
      rw [← isText, ← Nat.add_zero (List.length _), occursAt_add_iff, List.drop_left, occursAt_zero_iff] at occurs
      obtain ⟨after, begins⟩ := occurs
      obtain ⟨isKey, isSource⟩ := placeholder?_eq_some_iff.mp begins
      have isRead := (segments_source_of_append whole).2
      rw [isSource, segments_source_append isKey] at isRead
      cases isRead

theorem isKey_of_mem_segments (member : .placeholder key ∈ segments text) : IsKey key := by
  induction text using segments_induction with
  | nil =>
      rw [segments_nil] at member
      cases member
  | placeholder name after isKey ih =>
      rw [segments_source_append isKey] at member
      cases member with
      | head => exact isKey
      | tail _ later => exact ih later
  | literal c rest absent ih =>
      rw [segments_cons absent] at member
      cases member with
      | tail _ later => exact ih later

theorem occursAt_source (isKey : IsKey key) (front back : List Segment) :
    OccursAt ((front ++ .placeholder key :: back).flatMap Segment.source)
      (front.flatMap Segment.source).length key := by
  refine ⟨isKey, ?_⟩
  rw [List.flatMap_append, List.drop_left, List.flatMap_cons]
  exact List.prefix_append _ _

/-- Segments that begin with a brace of the text, end with one and make up a placeholder have a placeholder
between them: without one they would be read as that placeholder. -/
theorem Fills.exists_inner {inner : List Segment} (isKey : IsKey key)
    (fills : Fills values (.literal '\x7b' :: (inner ++ [.literal '\x7d'])) (Segment.placeholder key).source)
    (isRead : segments ((Segment.literal '\x7b' :: (inner ++ [.literal '\x7d'])).flatMap Segment.source) =
      .literal '\x7b' :: (inner ++ [.literal '\x7d'])) :
    ∃ front name back, inner = front ++ .placeholder name :: back := by
  by_contra none
  have literal : ∀ part ∈ inner, ∃ c, part = .literal c := by
    intro part member
    cases part with
    | literal c => exact ⟨c, rfl⟩
    | placeholder name =>
        obtain ⟨front, back, isInner⟩ := List.append_of_mem member
        exact absurd ⟨front, name, back, isInner⟩ none
  have unchanged : ∀ {parts filled}, Fills values parts filled → (∀ part ∈ parts, ∃ c, part = .literal c) →
      parts.flatMap Segment.source = filled := by
    intro parts filled fills
    induction fills with
    | nil => exact fun _ => rfl
    | literal _ ih =>
        intro literal
        rw [List.flatMap_cons, ih fun part member => literal part (List.mem_cons_of_mem _ member)]
        rfl
    | placeholder =>
        intro literal
        obtain ⟨c, differs⟩ := literal _ List.mem_cons_self
        cases differs
  have isSource := unchanged fills (by
    simp only [List.mem_cons, List.mem_append, List.not_mem_nil, or_false]
    rintro part (rfl | member | rfl)
    · exact ⟨_, rfl⟩
    · exact literal part member
    · exact ⟨_, rfl⟩)
  have alone := segments_source_append isKey []
  rw [List.append_nil, segments_nil, ← isSource, isRead] at alone
  cases alone

/-- A stretch of the text that cuts no placeholder, has one inside, and renders to the source of the key
behind as many characters as the place says. -/
structure Assembles (values : Dictionary String) (text before middle after : String) (start : Nat)
    (key : String) : Prop where
  whole : text = before ++ middle ++ after
  uncutBefore : Uncut text.toList before.toList.length
  uncutAfter : Uncut text.toList (before ++ middle).toList.length
  around : ∃ place inner, OccursAt middle.toList place inner ∧ 0 < place ∧
    place + (Segment.placeholder inner).source.length < middle.toList.length
  precedes : ∃ rendered, render values before = .ok rendered ∧ rendered.toList.length = start
  isKey : IsKey key
  forms : render values middle = .ok (String.ofList (Segment.placeholder key).source)

/-- No value holds a brace. -/
def Braceless (values : Dictionary String) : Prop :=
  ∀ key value, values.get? key = some value → '\x7b' ∉ value.toList ∧ '\x7d' ∉ value.toList

section Rendered

variable {text before middle after result : String} {start : Nat}

theorem Assembles.occursAt (assembles : Assembles values text before middle after start key)
    (rendered : render values text = .ok result) : OccursAt result.toList start key := by
  obtain ⟨rfl, uncutBefore, uncutAfter, _, ⟨first, isFirst, rfl⟩, isKey, forms⟩ := assembles
  rw [String.append_assoc] at uncutBefore
  have uncutMiddle : Uncut (middle ++ after).toList middle.toList.length := by
    have uncut : Uncut (before.toList ++ (middle ++ after).toList) (before.toList.length + middle.toList.length) := by
      simpa using uncutAfter
    exact uncut.of_append
  rw [String.append_assoc, render_append uncutBefore, isFirst, Except.bind, render_append uncutMiddle, forms,
    Except.bind] at rendered
  cases isLast : render values after with
  | error fault =>
      rw [isLast] at rendered
      cases rendered
  | ok last =>
      rw [isLast] at rendered
      cases rendered
      refine ⟨isKey, ?_⟩
      rw [String.toList_append, List.drop_left, String.toList_append, String.toList_ofList]
      exact List.prefix_append _ _

/-- The braces at both ends of what is spelled like a placeholder come from the text, so that its segments can
be parted there. -/
theorem Fills.exists_between {before after : List Char} (braceless : Braceless values)
    (fills : Fills values parts (before ++ (Segment.placeholder key).source ++ after)) :
    ∃ front inner back, parts = front ++ .literal '\x7b' :: (inner ++ [.literal '\x7d']) ++ back ∧
      Fills values front before ∧
      Fills values (.literal '\x7b' :: (inner ++ [.literal '\x7d'])) (Segment.placeholder key).source := by
  have isSource : (Segment.placeholder key).source =
      '\x7b' :: ('\x7b' :: (key.toList ++ ['\x7d']) ++ ['\x7d']) := by simp [source_placeholder]
  have spelled : before ++ (Segment.placeholder key).source ++ after =
      before ++ '\x7b' :: ('\x7b' :: (key.toList ++ ['\x7d']) ++ '\x7d' :: after) := by
    rw [isSource]
    simp
  rw [spelled] at fills
  obtain ⟨front, others, areParts, isFront, isRest⟩ :=
    fills.exists_literal fun key value found => (braceless key value found).1
  obtain ⟨inner, back, rfl, isInner, _⟩ :=
    isRest.exists_literal fun key value found => (braceless key value found).2
  refine ⟨front, inner, back, ?_, isFront, ?_⟩
  · rw [areParts, List.append_assoc, List.cons_append, List.append_assoc, List.singleton_append]
  · rw [isSource]
    exact .literal (isInner.append (.literal .nil))

/-- Segments in the middle of a text that make up a placeholder and have one inside are such a stretch. -/
theorem assembles_of_segments {outer last : Segment} {name : String} {inner inner' : List Segment}
    (whole : segments text.toList =
      front ++ (outer :: inner ++ .placeholder name :: (inner' ++ [last])) ++ back)
    (isFront : Fills values front filled)
    (forms : Fills values (outer :: inner ++ .placeholder name :: (inner' ++ [last])) (Segment.placeholder key).source)
    (isKey : IsKey key) :
    ∃ before middle after, Assembles values text before middle after filled.length key := by
  generalize parted : outer :: inner ++ .placeholder name :: (inner' ++ [last]) = middle at whole forms
  have whole' : segments text.toList = front ++ (middle ++ back) := by rw [whole, List.append_assoc]
  obtain ⟨readFront, readRest⟩ := segments_source_of_append whole'
  have readMiddle := (segments_source_of_append readRest).1
  have member : .placeholder name ∈ segments (middle.flatMap Segment.source) := by
    rw [readMiddle, ← parted]
    simp
  have present (part : Segment) : 0 < part.source.length := by
    cases part with
    | literal c => exact Nat.one_pos
    | placeholder key =>
        rw [length_source_placeholder]
        omega
  refine ⟨String.ofList (front.flatMap Segment.source), String.ofList (middle.flatMap Segment.source),
    String.ofList (back.flatMap Segment.source), ?_, ?_, ?_, ?_, ?_, isKey, ?_⟩
  · refine String.toList_injective ?_
    simp only [String.toList_append, String.toList_ofList]
    rw [← List.flatMap_append, source_append whole]
  · rw [String.toList_ofList]
    exact uncut_source whole'
  · rw [String.toList_append, String.toList_ofList, String.toList_ofList, ← List.flatMap_append]
    exact uncut_source whole
  · rw [String.toList_ofList, ← parted]
    refine ⟨_, name, occursAt_source (isKey_of_mem_segments member) (outer :: inner) (inner' ++ [last]), ?_, ?_⟩
    · have isPresent := present outer
      rw [List.flatMap_cons, List.length_append]
      omega
    · have isPresent := present last
      simp only [List.flatMap_append, List.flatMap_cons, List.flatMap_nil, List.length_append, List.length_nil]
      omega
  · refine ⟨String.ofList filled, render_eq_ok_iff.mpr ?_, by rw [String.toList_ofList]⟩
    rw [String.toList_ofList, String.toList_ofList, readFront]
    exact isFront
  · rw [render_eq_ok_iff, String.toList_ofList, String.toList_ofList, readMiddle]
    exact forms

theorem exists_assembles (braceless : Braceless values) (rendered : render values text = .ok result)
    (occurs : OccursAt result.toList start key) :
    ∃ before middle after, Assembles values text before middle after start key := by
  obtain ⟨last, isLast⟩ := occurs.stands
  have isShort : start ≤ result.toList.length := by
    by_contra beyond
    rw [List.drop_eq_nil_of_le (by omega)] at isLast
    simp [source_placeholder] at isLast
  have fills := render_eq_ok_iff.mp rendered
  rw [← List.take_append_drop start result.toList, ← isLast, ← List.append_assoc] at fills
  obtain ⟨front, inner, back, whole, isFront, forms⟩ := fills.exists_between braceless
  have readRest := (segments_source_of_append (whole.trans (List.append_assoc _ _ _))).2
  obtain ⟨before, name, after, rfl⟩ :=
    forms.exists_inner occurs.isKey (segments_source_of_append readRest).1
  rw [← List.length_take_of_le isShort]
  have parted : .literal '\x7b' :: (before ++ .placeholder name :: after ++ [.literal '\x7d']) =
      Segment.literal '\x7b' :: before ++ .placeholder name :: (after ++ [.literal '\x7d']) := by simp
  rw [parted] at whole forms
  exact assembles_of_segments whole isFront forms occurs.isKey

/-- No placeholder stands in the text, so that it renders to itself whatever the values are. -/
structure Final (text : String) : Prop where
  plain : ∀ start key, ¬ OccursAt text.toList start key
  unchanged : ∀ values, render values text = .ok text

theorem final_iff_plain : Final text ↔ ∀ start key, ¬ OccursAt text.toList start key := by
  constructor
  · exact fun final => final.plain
  · intro plain
    have divides := Division.divides_iff.mpr (rfl : Division.ofSegments (segments text.toList) = _)
    have noKeys : (Division.ofSegments (segments text.toList)).keys = [] := by
      refine List.eq_nil_iff_forall_not_mem.mpr fun key member => ?_
      obtain ⟨start, occurs⟩ := divides.mem_keys_iff.mp member
      exact plain start key occurs
    exact ⟨plain, fun values => render_of_plain divides noKeys⟩

/-- Without values only such a text is rendered. -/
theorem final_iff_unchanged : Final text ↔ ∀ values, render values text = .ok text := by
  constructor
  · exact fun final => final.unchanged
  · intro unchanged
    have divides := Division.divides_iff.mpr (rfl : Division.ofSegments (segments text.toList) = _)
    refine final_iff_plain.mpr fun start key occurs => ?_
    have bound := bound_of_render divides (unchanged .empty) key (divides.mem_keys_iff.mpr ⟨start, occurs⟩)
    cases bound

theorem final_of_enclosed (braceless : Braceless values) (rendered : render values text = .ok result)
    (enclosed : Enclosed '\x7b' text.toList ∨ Enclosed '\x7d' text.toList) : Final result := by
  have fills := render_eq_ok_iff.mp rendered
  refine final_iff_plain.mpr fun start key occurs => ?_
  have inResult : ∀ c ∈ (Segment.placeholder key).source, c ∈ result.toList := fun c member =>
    List.mem_of_mem_drop (occurs.stands.subset member)
  cases enclosed with
  | inl opening =>
      refine opening.literal_not_mem (fills.literal_mem (fun key value found => (braceless key value found).1) ?_)
      exact inResult _ (by simp [source_placeholder])
  | inr closing =>
      refine closing.literal_not_mem (fills.literal_mem (fun key value found => (braceless key value found).2) ?_)
      exact inResult _ (by simp [source_placeholder])

/-- **Placeholders that arise.** If no value holds a brace, a placeholder stands in what a text renders to
exactly where a stretch of the text with a placeholder inside renders to it. If there is no such stretch, as
when the opening or the closing braces of the text all belong to placeholders, then the rendering is final:
rendered again it stays as it is. -/
theorem rendered_placeholders (braceless : Braceless values) (rendered : render values text = .ok result) :
    (∀ start key, OccursAt result.toList start key ↔
        ∃ before middle after, Assembles values text before middle after start key) ∧
      ((∀ values', render values' result = .ok result) ↔ ∀ before middle after start key,
        ¬ Assembles values text before middle after start key) ∧
      (Enclosed '\x7b' text.toList ∨ Enclosed '\x7d' text.toList → Final result) := by
  have arises (start : Nat) (key : String) : OccursAt result.toList start key ↔
      ∃ before middle after, Assembles values text before middle after start key := by
    constructor
    · exact exists_assembles braceless rendered
    · intro facts
      obtain ⟨before, middle, after, assembles⟩ := facts
      exact assembles.occursAt rendered
  refine ⟨arises, ?_, final_of_enclosed braceless rendered⟩
  rw [← final_iff_unchanged, final_iff_plain]
  constructor
  · intro plain before middle after start key assembles
    exact plain start key ((arises start key).mpr ⟨before, middle, after, assembles⟩)
  · intro none start key occurs
    obtain ⟨before, middle, after, assembles⟩ := (arises start key).mp occurs
    exact none before middle after start key assembles

/-- A placeholder between two pairs of braces. -/
def nested : String := "\x7b\x7b\x7b\x7bA\x7d\x7d\x7d\x7d"

theorem braceless_nested : Braceless (.ofList [("A", "X")]) := by
  intro key value found
  rw [Dictionary.get?_ofList, List.reverse_singleton, Dictionary.lookup_cons_if] at found
  split at found
  · cases found
    decide
  · cases found

theorem render_nested : render (.ofList [("A", "X")]) nested = .ok "\x7b\x7bX\x7d\x7d" := by decide +kernel

theorem occursAt_nested : OccursAt "\x7b\x7bX\x7d\x7d".toList 0 "X" :=
  ⟨⟨by decide, List.all_eq_true.mp (by decide)⟩, by decide⟩

/-- The rendering of the one is not final, that of a placeholder alone is. -/
theorem rendered_placeholders_nested :
    (∃ before middle after, Assembles (.ofList [("A", "X")]) nested before middle after 0 "X") ∧
      ∃ result, render (.ofList [("A", "X")]) "\x7b\x7bA\x7d\x7d" = .ok result ∧ Final result := by
  constructor
  · exact ((rendered_placeholders braceless_nested render_nested).1 0 "X").mp occursAt_nested
  · have rendered : render (.ofList [("A", "X")]) "\x7b\x7bA\x7d\x7d" = .ok "X" := by decide +kernel
    refine ⟨_, rendered, (rendered_placeholders braceless_nested rendered).2.2 (.inl fun place stands => ?_)⟩
    have inText : place < 5 := (List.getElem?_eq_some_iff.mp stands).1
    exact ⟨0, "A", ⟨⟨by decide, List.all_eq_true.mp (by decide)⟩, by decide⟩, Nat.zero_le place, inText⟩

/-- Values without braces do not make every rendering final. -/
theorem rendering_not_always_final :
    ¬ ∀ (values : Dictionary String) (text result : String), Braceless values →
      render values text = .ok result →
        (∀ start key, ¬ OccursAt result.toList start key) ∧ ∀ values', render values' result = .ok result := by
  intro final
  exact (final _ _ _ braceless_nested render_nested).1 0 "X" occursAt_nested

end Rendered

end ClusterConfig.Template
