import ClusterConfig.Proofs.Template.Occurrence

set_option autoImplicit false

/-!
# Dividing a text at its placeholders

A division of a text says where placeholders stand in it. Only one division names all of them, and the
segments that are read from left to right make up that one.
-/

namespace ClusterConfig.Template

/-- A text taken apart at placeholders: what stands before each of them, its key, and what stands after the
last one. -/
inductive Division where
  | ending (text : List Char)
  | step (text : List Char) (key : String) (others : Division)
deriving DecidableEq, Repr

namespace Division

def source : Division → List Char
  | ending text => text
  | step text key others => text ++ ((Segment.placeholder key).source ++ others.source)

def keys : Division → List String
  | ending _ => []
  | step _ key others => key :: others.keys

/-- Where the placeholders begin, with their keys. -/
def places : Division → List (Nat × String)
  | ending _ => []
  | step text key others =>
      (text.length, key) :: others.places.map fun place =>
        (text.length + ((Segment.placeholder key).source.length + place.1), place.2)

/-- The text with values in the places of the placeholders. -/
def fill (value : String → String) : Division → List Char
  | ending text => text
  | step text key others => text ++ ((value key).toList ++ others.fill value)

/-- The division says of the text where every one of its placeholders stands. -/
structure Divides (division : Division) (text : List Char) : Prop where
  source : division.source = text
  places : ∀ start key, OccursAt text start key ↔ (start, key) ∈ division.places

/-- The division of a text that has a further character in front. -/
def cons (c : Char) : Division → Division
  | ending text => ending (c :: text)
  | step text key others => step (c :: text) key others

def ofSegments : List Segment → Division
  | [] => ending []
  | .literal c :: rest => (ofSegments rest).cons c
  | .placeholder key :: rest => step [] key (ofSegments rest)

variable {division : Division} {text rest after : List Char} {start : Nat} {key other : String} {c : Char}

@[simp] theorem source_cons (c : Char) (division : Division) :
    (division.cons c).source = c :: division.source := by
  cases division <;> rfl

@[simp] theorem keys_cons (c : Char) (division : Division) : (division.cons c).keys = division.keys := by
  cases division <;> rfl

@[simp] theorem fill_cons (value : String → String) (c : Char) (division : Division) :
    (division.cons c).fill value = c :: division.fill value := by
  cases division <;> rfl

theorem mem_places_cons_iff :
    (start, key) ∈ (division.cons c).places ↔
      ∃ later, start = later + 1 ∧ (later, key) ∈ division.places := by
  cases division with
  | ending text => simp [cons, places]
  | step text present others =>
      simp only [cons, places, List.length_cons, List.mem_cons, Prod.mk.injEq, List.mem_map,
        Prod.exists]
      constructor
      · intro member
        rcases member with ⟨rfl, rfl⟩ | ⟨distance, name, found, rfl, rfl⟩
        · exact ⟨text.length, rfl, .inl ⟨rfl, rfl⟩⟩
        · exact ⟨_, by omega, .inr ⟨distance, name, found, rfl, rfl⟩⟩
      · intro facts
        obtain ⟨later, rfl, member⟩ := facts
        rcases member with ⟨rfl, rfl⟩ | ⟨distance, name, found, rfl, rfl⟩
        · exact .inl ⟨rfl, rfl⟩
        · exact .inr ⟨distance, name, found, by omega, rfl⟩

theorem mem_places_step_iff {others : Division} :
    (start, other) ∈ (step [] key others).places ↔ (start = 0 ∧ other = key) ∨
      ∃ later, start = (Segment.placeholder key).source.length + later ∧
        (later, other) ∈ others.places := by
  simp only [places, List.length_nil, Nat.zero_add, List.mem_cons, Prod.mk.injEq, List.mem_map,
    Prod.exists]
  refine or_congr_right ?_
  constructor
  · intro facts
    obtain ⟨later, name, found, rfl, rfl⟩ := facts
    exact ⟨later, rfl, found⟩
  · intro facts
    obtain ⟨later, rfl, found⟩ := facts
    exact ⟨later, other, found, rfl, rfl⟩

theorem mem_keys_iff : key ∈ division.keys ↔ ∃ start, (start, key) ∈ division.places := by
  induction division with
  | ending text => simp [keys, places]
  | step text present others ih =>
      simp only [keys, places, List.mem_cons, ih, Prod.mk.injEq, List.mem_map, Prod.exists]
      constructor
      · intro member
        rcases member with rfl | ⟨later, found⟩
        · exact ⟨text.length, .inl ⟨rfl, rfl⟩⟩
        · exact ⟨_, .inr ⟨later, key, found, rfl, rfl⟩⟩
      · intro facts
        obtain ⟨start, ⟨_, same⟩ | ⟨later, _, found, _, rfl⟩⟩ := facts
        · exact .inl same
        · exact .inr ⟨later, found⟩

theorem Divides.mem_keys_iff (divides : division.Divides text) :
    key ∈ division.keys ↔ ∃ start, OccursAt text start key := by
  simp only [Division.mem_keys_iff, divides.places]

theorem exists_eq_step (found : (0, key) ∈ division.places) : ∃ others, division = step [] key others := by
  cases division with
  | ending text => simp [places] at found
  | step text present others =>
      simp only [places, List.mem_cons, Prod.mk.injEq, List.mem_map, Prod.exists] at found
      rcases found with ⟨isEmpty, rfl⟩ | ⟨distance, name, _, isZero, _⟩
      · rw [List.eq_nil_of_length_eq_zero isEmpty.symm]
        exact ⟨others, rfl⟩
      · rw [length_source_placeholder] at isZero
        omega

theorem exists_eq_cons (isSource : division.source = c :: rest)
    (absent : ∀ key, (0, key) ∉ division.places) :
    ∃ others : Division, division = others.cons c ∧ others.source = rest := by
  cases division with
  | ending text =>
      obtain rfl : text = c :: rest := isSource
      exact ⟨ending rest, rfl, rfl⟩
  | step text key others =>
      cases text with
      | nil => exact absurd (by simp [places]) (absent key)
      | cons first text =>
          obtain ⟨rfl, isRest⟩ := List.cons.inj isSource
          exact ⟨step text key others, rfl, isRest⟩

theorem divides_nil_iff : division.Divides [] ↔ division = ending [] := by
  constructor
  · intro divides
    cases division with
    | ending text => exact congrArg ending divides.source
    | step text key others =>
        have isEmpty := divides.source
        simp [source, source_placeholder] at isEmpty
  · intro isEnding
    subst isEnding
    exact ⟨rfl, fun start key => iff_of_false not_occursAt_nil (by simp [places])⟩

theorem divides_cons_iff (begins : placeholder? (c :: rest) = none) :
    division.Divides (c :: rest) ↔ ∃ others : Division, division = others.cons c ∧ others.Divides rest := by
  have notFirst (key : String) : ¬ OccursAt (c :: rest) 0 key := by
    intro occurs
    obtain ⟨after, found⟩ := occursAt_zero_iff.mp occurs
    rw [begins] at found
    cases found
  have shift (later : Nat) (key : String) : OccursAt (c :: rest) (later + 1) key ↔ OccursAt rest later key := by
    rw [Nat.add_comm, occursAt_add_iff, List.drop_one, List.tail_cons]
  constructor
  · intro divides
    obtain ⟨others, rfl, isSource⟩ := exists_eq_cons divides.source fun key found =>
      notFirst key ((divides.places 0 key).mpr found)
    refine ⟨others, rfl, isSource, fun later key => ?_⟩
    rw [← shift, divides.places, mem_places_cons_iff]
    simp
  · intro facts
    obtain ⟨others, rfl, divides⟩ := facts
    refine ⟨by rw [source_cons, divides.source], fun start key => ?_⟩
    rw [mem_places_cons_iff]
    cases start with
    | zero => simp [notFirst]
    | succ later => simp [shift, divides.places]

theorem divides_source_append_iff (isKey : IsKey key) :
    division.Divides ((Segment.placeholder key).source ++ after) ↔
      ∃ others, division = step [] key others ∧ others.Divides after := by
  have first : OccursAt ((Segment.placeholder key).source ++ after) 0 key :=
    ⟨isKey, List.prefix_append _ after⟩
  have shift (later : Nat) (other : String) :
      OccursAt ((Segment.placeholder key).source ++ after)
        ((Segment.placeholder key).source.length + later) other ↔ OccursAt after later other := by
    rw [occursAt_add_iff, List.drop_left]
  constructor
  · intro divides
    obtain ⟨others, rfl⟩ := exists_eq_step ((divides.places 0 key).mp first)
    refine ⟨others, rfl, List.append_cancel_left divides.source, fun later other => ?_⟩
    have positive := length_source_placeholder key
    rw [← shift, divides.places, mem_places_step_iff]
    simp [positive]
  · intro facts
    obtain ⟨others, rfl, divides⟩ := facts
    refine ⟨by rw [source, List.nil_append, divides.source], fun start other => ?_⟩
    rw [mem_places_step_iff]
    constructor
    · intro occurs
      rcases first.apart occurs with ⟨rfl, rfl⟩ | behind | before
      · exact .inl ⟨rfl, rfl⟩
      · obtain ⟨later, rfl⟩ := Nat.exists_eq_add_of_le behind
        rw [Nat.zero_add] at occurs ⊢
        exact .inr ⟨later, rfl, (divides.places later other).mp ((shift later other).mp occurs)⟩
      · rw [length_source_placeholder] at before
        omega
    · intro facts
      rcases facts with ⟨rfl, rfl⟩ | ⟨later, rfl, found⟩
      · exact first
      · exact (shift later other).mpr ((divides.places later other).mpr found)

/-- The one division of a text at all of its placeholders is the one that is read from left to right. -/
theorem divides_iff : division.Divides text ↔ division = ofSegments (segments text) := by
  induction text using segments_induction generalizing division with
  | nil =>
      rw [divides_nil_iff, segments_nil]
      rfl
  | placeholder key after isKey ih =>
      rw [divides_source_append_iff isKey, segments_source_append isKey, ofSegments]
      simp only [ih, exists_eq_right]
  | literal c rest absent ih =>
      rw [divides_cons_iff absent, segments_cons absent, ofSegments]
      simp only [ih, exists_eq_right]

end Division

end ClusterConfig.Template
