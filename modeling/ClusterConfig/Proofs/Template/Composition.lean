import ClusterConfig.Proofs.Dictionary
import ClusterConfig.Proofs.Template.Rendering
import ClusterConfig.Proofs.Text

set_option autoImplicit false

/-!
# Composition

A text that is cut where no placeholder stands is read and rendered part by part, so that a template may be
rendered line by line. The first part that fails decides the fault.
-/

namespace ClusterConfig.Template

/-- No placeholder of the text stands across the position: each ends before it or begins behind it. -/
def Uncut (text : List Char) (cut : Nat) : Prop :=
  ∀ start key, OccursAt text start key →
    start + (Segment.placeholder key).source.length ≤ cut ∨ cut ≤ start

/-- A character that can stand in a placeholder. -/
def isSourceCharacter (c : Char) : Bool :=
  isKeyCharacter c || c == '\x7b' || c == '\x7d'

section Segments

variable {text front back rest after : List Char} {start place : Nat} {key : String} {c : Char}

theorem placeholder?_append {found : List Char} (begins : placeholder? text = some (found, after))
    (more : List Char) : placeholder? (text ++ more) = some (found, after ++ more) := by
  obtain ⟨key, rfl, isKey, rfl⟩ := exists_key_of_placeholder? begins
  rw [List.append_assoc]
  exact placeholder?_source isKey (after ++ more)

/-- A placeholder that begins in the front and does not stand across the cut is recognised without what
follows. -/
theorem placeholder?_of_append {found : List Char} (begins : placeholder? (front ++ back) = some (found, after))
    (uncut : Uncut (front ++ back) front.length) (present : front ≠ []) :
    ∃ within, placeholder? front = some (found, within) := by
  obtain ⟨key, rfl, isKey, whole⟩ := exists_key_of_placeholder? begins
  have stands : (Segment.placeholder key).source <+: front ++ back := ⟨after, whole.symm⟩
  cases uncut 0 key ⟨isKey, stands⟩ with
  | inl before =>
      rw [Nat.zero_add] at before
      obtain ⟨within, isFront⟩ := List.prefix_of_prefix_length_le stands (List.prefix_append front back) before
      exact ⟨within, placeholder?_eq_some_iff.mpr ⟨isKey, isFront.symm⟩⟩
  | inr behind => exact absurd (List.eq_nil_of_length_eq_zero (Nat.le_zero.mp behind)) present

theorem Uncut.of_append {cut : Nat} (uncut : Uncut (front ++ rest) (front.length + cut)) : Uncut rest cut := by
  intro start key occurs
  have shifted : OccursAt (front ++ rest) (front.length + start) key := by
    rw [occursAt_add_iff, List.drop_left]
    exact occurs
  cases uncut _ _ shifted with
  | inl before => exact .inl (by omega)
  | inr behind => exact .inr (by omega)

/-- A text that is cut where no placeholder stands is read part by part. -/
theorem segments_append (uncut : Uncut (front ++ back) front.length) :
    segments (front ++ back) = segments front ++ segments back := by
  induction front using segments_induction with
  | nil => rw [segments_nil, List.nil_append, List.nil_append]
  | placeholder key after isKey ih =>
      rw [List.length_append, List.append_assoc] at uncut
      rw [List.append_assoc, segments_source_append isKey, segments_source_append isKey, ih uncut.of_append,
        List.cons_append]
  | literal c rest absent ih =>
      have notFirst : placeholder? ((c :: rest) ++ back) = none := by
        cases begins : placeholder? ((c :: rest) ++ back) with
        | none => rfl
        | some found =>
            obtain ⟨within, isFirst⟩ := placeholder?_of_append begins uncut (List.cons_ne_nil c rest)
            rw [absent] at isFirst
            cases isFirst
      have later : Uncut ([c] ++ (rest ++ back)) ([c].length + rest.length) := by
        rw [List.length_singleton, Nat.add_comm]
        exact uncut
      rw [List.cons_append] at notFirst ⊢
      rw [segments_cons notFirst, segments_cons absent, ih later.of_append, List.cons_append]

/-- The cuts between segments are the only such cuts. -/
theorem uncut_of_segments_append (same : segments (front ++ back) = segments front ++ segments back) :
    Uncut (front ++ back) front.length := by
  induction front using segments_induction with
  | nil => exact fun start key _ => .inr (Nat.zero_le start)
  | placeholder key after isKey ih =>
      rw [List.append_assoc, segments_source_append isKey, segments_source_append isKey, List.cons_append] at same
      have later := ih (List.cons.inj same).2
      have first : OccursAt ((Segment.placeholder key).source ++ (after ++ back)) 0 key :=
        ⟨isKey, List.prefix_append _ _⟩
      intro start other occurs
      rw [List.append_assoc] at occurs
      rw [List.length_append]
      rcases first.apart occurs with ⟨rfl, rfl⟩ | behind | before
      · exact .inl (by omega)
      · obtain ⟨distance, rfl⟩ := Nat.exists_eq_add_of_le behind
        rw [Nat.zero_add, occursAt_add_iff, List.drop_left] at occurs
        cases later distance other occurs with
        | inl before => exact .inl (by omega)
        | inr behind => exact .inr (by omega)
      · rw [length_source_placeholder] at before
        omega
  | literal c rest absent ih =>
      have notFirst : placeholder? (c :: (rest ++ back)) = none := by
        cases begins : placeholder? (c :: (rest ++ back)) with
        | none => rfl
        | some found =>
            obtain ⟨key, _, isKey, whole⟩ := exists_key_of_placeholder? begins
            rw [List.cons_append, whole, segments_source_append isKey, segments_cons absent] at same
            cases same
      rw [List.cons_append, segments_cons notFirst, segments_cons absent, List.cons_append] at same
      have later := ih (List.cons.inj same).2
      intro start key occurs
      cases start with
      | zero =>
          obtain ⟨after, begins⟩ := occursAt_zero_iff.mp occurs
          rw [List.cons_append, notFirst] at begins
          cases begins
      | succ start =>
          rw [List.cons_append, Nat.add_comm, occursAt_add_iff, List.drop_one, List.tail_cons] at occurs
          rw [List.length_cons]
          cases later start key occurs with
          | inl before => exact .inl (by omega)
          | inr behind => exact .inr (by omega)

theorem segments_append_iff :
    segments (front ++ back) = segments front ++ segments back ↔ Uncut (front ++ back) front.length :=
  ⟨uncut_of_segments_append, segments_append⟩

theorem IsKey.isSourceCharacter (isKey : IsKey key) (member : c ∈ (Segment.placeholder key).source) :
    isSourceCharacter c = true := by
  simp only [source_placeholder, List.mem_cons, List.mem_append, List.not_mem_nil, or_false] at member
  rcases member with rfl | rfl | inKey | rfl | rfl
  · decide
  · decide
  · rw [Template.isSourceCharacter, isKey.characters c inKey, Bool.true_or, Bool.true_or]
  · decide
  · decide

/-- What stands within a placeholder of a text is one of its characters. -/
theorem OccursAt.isSourceCharacter (occurs : OccursAt text start key) (begun : start ≤ place)
    (within : place < start + (Segment.placeholder key).source.length) (stands : text[place]? = some c) :
    isSourceCharacter c = true := by
  obtain ⟨distance, rfl⟩ := Nat.exists_eq_add_of_le begun
  have inSource : distance < (Segment.placeholder key).source.length := by omega
  rw [← List.getElem?_drop] at stands
  have here := List.prefix_iff_getElem?.mp occurs.stands distance inSource
  rw [stands] at here
  exact occurs.isKey.isSourceCharacter (Option.some.inj here ▸ List.getElem_mem inSource)

/-- Beside a character that stands in no placeholder a text may be cut. -/
theorem uncut_of_foreign (foreign : isSourceCharacter c = false)
    (beside : front.getLast? = some c ∨ back.head? = some c) : Uncut (front ++ back) front.length := by
  intro start key occurs
  by_contra across
  obtain ⟨beyond, begun⟩ := not_or.mp across
  have isSource : Template.isSourceCharacter c = true := by
    cases beside with
    | inl isLast =>
        have present : front ≠ [] := fun empty => by simp [empty] at isLast
        have positive := List.length_pos_of_ne_nil present
        have stands : (front ++ back)[front.length - 1]? = some c := by
          rw [List.getElem?_append_left (by omega), ← List.getLast?_eq_getElem?, isLast]
        exact occurs.isSourceCharacter (by omega) (by omega) stands
    | inr isFirst =>
        have stands : (front ++ back)[front.length]? = some c := by
          rw [List.getElem?_append_right (Nat.le_refl _), Nat.sub_self, ← List.head?_eq_getElem?, isFirst]
        exact occurs.isSourceCharacter (by omega) (by omega) stands
  rw [foreign] at isSource
  cases isSource

end Segments

section Rendering

variable {values values' : Dictionary String} {text front back result name : String} {mark : Char}

theorem render_append (uncut : Uncut (front ++ back).toList front.toList.length) :
    render values (front ++ back) =
      (render values front).bind fun first => (render values back).map fun second => first ++ second := by
  rw [String.toList_append] at uncut
  rw [render, render, render, String.toList_append, segments_append uncut, List.mapM_append]
  cases (segments front.toList).mapM (Segment.fill values) with
  | error fault => rfl
  | ok parts =>
      cases (segments back.toList).mapM (Segment.fill values) with
      | error fault => rfl
      | ok others =>
          change Except.ok (String.ofList (parts ++ others).flatten) = _
          rw [List.flatten_append, String.ofList_append]
          rfl

theorem render_singleton (mark : Char) : render values (String.singleton mark) = .ok (String.singleton mark) := by
  have absent : placeholder? [mark] = none := by simp [placeholder?]
  rw [render, String.toList_singleton, segments_cons absent, segments_nil]
  rfl

theorem render_empty : render values "" = .ok "" := by
  rw [render, String.toList_empty, segments_nil]
  rfl

/-- Texts between marks that stand in no placeholder are rendered one by one. -/
theorem render_join (foreign : isSourceCharacter mark = false) (texts : List String) :
    render values (Text.join (String.singleton mark) texts) =
      Text.join (String.singleton mark) <$> texts.mapM (render values) := by
  induction texts with
  | nil => exact render_empty
  | cons first rest ih =>
      cases rest with
      | nil =>
          rw [List.mapM_cons, List.mapM_nil]
          change render values first = _
          cases render values first with
          | error fault => rfl
          | ok rendered => rfl
      | cons second rest =>
          have behindFirst : Uncut (first ++ String.singleton mark).toList first.toList.length := by
            rw [String.toList_append]
            exact uncut_of_foreign foreign (.inr (by simp))
          have beforeRest : Uncut (first ++ String.singleton mark ++
              Text.join (String.singleton mark) (second :: rest)).toList
              (first ++ String.singleton mark).toList.length := by
            rw [String.toList_append]
            exact uncut_of_foreign foreign (.inl (by simp))
          rw [List.mapM_cons, Text.join_cons_cons, render_append beforeRest, render_append behindFirst,
            render_singleton, ih]
          cases render values first with
          | error fault => rfl
          | ok rendered =>
              cases others : (second :: rest).mapM (render values) with
              | error fault => rfl
              | ok renderings =>
                  cases Reading.mapM_eq_ok_iff.mp others with
                  | cons _ _ =>
                      change Except.ok _ = Except.ok _
                      rw [Text.join_cons_cons]

/-- What is rendered stays the same as long as the keys of the text keep their values. -/
theorem render_of_kept (rendered : render values text = .ok result)
    (kept : ∀ start key value, OccursAt text.toList start key → values.get? key = some value →
      values'.get? key = some value) : render values' text = .ok result := by
  have divides := Division.divides_iff.mpr (rfl : Division.ofSegments (segments text.toList) = _)
  have agree : ∀ key ∈ (Division.ofSegments (segments text.toList)).keys, values.get? key = values'.get? key := by
    intro key member
    obtain ⟨value, isValue⟩ := Option.isSome_iff_exists.mp (bound_of_render divides rendered key member)
    obtain ⟨start, occurs⟩ := divides.mem_keys_iff.mp member
    rw [isValue, kept start key value occurs isValue]
  rw [← render_congr divides agree]
  exact rendered

/-- What the text of a template of that name renders to, or how it fails. -/
def renderAs (name : String) (values : Dictionary String) (text : String) : Except Failure String :=
  (render values text).mapError (.template name)

theorem renderAs_eq_ok_iff : renderAs name values text = .ok result ↔ render values text = .ok result :=
  Reading.mapError_eq_ok_iff

/-- Two texts together render to what they render to one after the other, and fail as the first of them that
fails. -/
structure RendersInTurn (name : String) (values : Dictionary String) (front back : String) : Prop where
  rendered : ∀ {first second}, renderAs name values front = .ok first → renderAs name values back = .ok second →
    renderAs name values (front ++ back) = .ok (first ++ second)
  frontFails : ∀ {failure}, renderAs name values front = .error failure →
    renderAs name values (front ++ back) = .error failure
  backFails : ∀ {first failure}, renderAs name values front = .ok first →
    renderAs name values back = .error failure → renderAs name values (front ++ back) = .error failure

theorem rendersInTurn (uncut : Uncut (front ++ back).toList front.toList.length) :
    RendersInTurn name values front back := by
  have whole : render values (front ++ back) = _ := render_append uncut
  constructor
  · intro first second isFirst isSecond
    rw [renderAs_eq_ok_iff] at isFirst isSecond ⊢
    rw [whole, isFirst, isSecond]
    rfl
  · intro failure fails
    unfold renderAs at fails ⊢
    cases isFront : render values front with
    | ok first =>
        rw [isFront] at fails
        cases fails
    | error fault =>
        rw [whole, isFront, ← fails, isFront]
        rfl
  · intro first failure isFirst fails
    rw [renderAs_eq_ok_iff] at isFirst
    unfold renderAs at fails ⊢
    cases isBack : render values back with
    | ok second =>
        rw [isBack] at fails
        cases fails
    | error fault =>
        rw [whole, isFirst, isBack, ← fails, isBack]
        rfl

/-- A line feed stands in no placeholder, so that a text is rendered line by line. -/
theorem renderAs_lines (text : String) :
    renderAs name values text =
      Text.join "\n" <$> ((Text.pieces '\n' text.toList).map String.ofList).mapM (renderAs name values) := by
  have isMark : "\n" = String.singleton '\n' := rfl
  rw [isMark]
  have isText : Text.join (String.singleton '\n') ((Text.pieces '\n' text.toList).map String.ofList) = text :=
    Text.join_pieces text
  generalize (Text.pieces '\n' text.toList).map String.ofList = lines at isText ⊢
  have foreign : isSourceCharacter '\n' = false := by decide
  have oneByOne : render values (Text.join (String.singleton '\n') lines) = _ := render_join foreign lines
  have named : lines.mapM (renderAs name values) = (lines.mapM (render values)).mapError (.template name) :=
    Reading.mapM_mapError (render values) (Failure.template name) lines
  rw [named, ← isText, renderAs, oneByOne]
  cases lines.mapM (render values) with
  | error fault => rfl
  | ok renderings => rfl

/-- **Composition.** A text that is cut where no placeholder stands, as it is beside a character that can
stand in none, renders to what its parts render to, and fails as the first part that fails; so a template is
rendered line by line. Other values do not change what is rendered as long as the keys of the text keep
theirs. -/
theorem render_composes (name : String) (values : Dictionary String) :
    (∀ front back : String, Uncut (front ++ back).toList front.toList.length →
        RendersInTurn name values front back) ∧
      (∀ (front back : String) (c : Char), isSourceCharacter c = false →
        front.toList.getLast? = some c ∨ back.toList.head? = some c →
          Uncut (front ++ back).toList front.toList.length) ∧
      (∀ text : String, renderAs name values text =
        Text.join "\n" <$> ((Text.pieces '\n' text.toList).map String.ofList).mapM (renderAs name values)) ∧
      ∀ (text result : String) (values' : Dictionary String), renderAs name values text = .ok result →
        (∀ start key value, OccursAt text.toList start key → values.get? key = some value →
          values'.get? key = some value) → renderAs name values' text = .ok result := by
  refine ⟨fun front back uncut => rendersInTurn uncut, fun front back c foreign beside => ?_, renderAs_lines,
    fun text result values' rendered kept => ?_⟩
  · rw [String.toList_append]
    exact uncut_of_foreign foreign beside
  · rw [renderAs_eq_ok_iff] at rendered ⊢
    exact render_of_kept rendered kept

def boundLine : String := "a: \x7b\x7bA\x7d\x7d\n"

def unboundLine : String := "b: \x7b\x7bB\x7d\x7d\n"

/-- The first line renders, and what follows it does not; a value for the second line does not change the
first. -/
theorem render_composes_twoLines :
    Uncut (boundLine ++ unboundLine).toList boundLine.toList.length ∧
      renderAs "t" (.ofList [("A", "1")]) (boundLine ++ boundLine) = .ok "a: 1\na: 1\n" ∧
      renderAs "t" (.ofList [("A", "1")]) (boundLine ++ unboundLine) = .error (.template "t" (.unbound "B")) ∧
      renderAs "t" (.ofList [("A", "1"), ("B", "2")]) boundLine = .ok "a: 1\n" := by
  obtain ⟨inTurn, uncut, _, extended⟩ := render_composes "t" (.ofList [("A", "1")])
  have isBound : renderAs "t" (.ofList [("A", "1")]) boundLine = .ok "a: 1\n" := by decide +kernel
  have isUnbound : renderAs "t" (.ofList [("A", "1")]) unboundLine = .error (.template "t" (.unbound "B")) := by
    decide +kernel
  have isUncut (back : String) : Uncut (boundLine ++ back).toList boundLine.toList.length :=
    uncut boundLine back '\n' (by decide) (.inl (by decide))
  refine ⟨isUncut unboundLine, (inTurn _ _ (isUncut boundLine)).rendered isBound isBound,
    (inTurn _ _ (isUncut unboundLine)).backFails isBound isUnbound, extended _ _ _ isBound ?_⟩
  intro start key value _ found
  have isOverride : (Dictionary.ofList [("A", "1"), ("B", "2")]).get? key =
      if key = "B" then some "2" else (Dictionary.ofList [("A", "1")]).get? key :=
    Dictionary.get?_insert "B" key "2" (.ofList [("A", "1")])
  have isA : key = "A" := by
    by_contra differs
    rw [Dictionary.get?_ofList, List.reverse_singleton, Dictionary.lookup_cons_if, if_neg differs] at found
    cases found
  rw [isOverride, if_neg (by simp [isA])]
  exact found

end Rendering

end ClusterConfig.Template
