import ClusterConfig.Failure
import ClusterConfig.Proofs.Reading
import ClusterConfig.Proofs.Template.Division

set_option autoImplicit false

/-!
# Rendering

What a template renders to is told by its division: every placeholder gives way to the value of its key,
and nothing else changes. The first key without a value is the fault.
-/

namespace ClusterConfig.Template

variable {values : Dictionary String} {value : String → String} {parts : List Segment}

theorem fill_placeholder_eq_ok_iff {key : String} {filled : List Char} :
    (Segment.placeholder key).fill values = .ok filled ↔
      ∃ value, values.get? key = some value ∧ value.toList = filled := by
  cases found : values.get? key with
  | none => simp [Segment.fill, found]
  | some value => simp [Segment.fill, found]

theorem fault?_fill_placeholder (key : String) :
    Reading.fault? ((Segment.placeholder key).fill values) =
      if (values.get? key).isNone then some (.unbound key) else none := by
  cases found : values.get? key with
  | none => simp [Segment.fill, found]
  | some value => simp [Segment.fill, found]

theorem exists_filled
    (bound : ∀ key ∈ (Division.ofSegments parts).keys, values.get? key = some (value key)) :
    ∃ filled, parts.mapM (Segment.fill values) = .ok filled ∧
      filled.flatten = (Division.ofSegments parts).fill value := by
  simp only [Reading.mapM_eq_ok_iff]
  induction parts with
  | nil => exact ⟨[], .nil, rfl⟩
  | cons part rest ih =>
      cases part with
      | literal c =>
          simp only [Division.ofSegments, Division.keys_cons] at bound
          obtain ⟨filled, each, whole⟩ := ih bound
          refine ⟨[c] :: filled, .cons rfl each, ?_⟩
          rw [Division.ofSegments, Division.fill_cons, ← whole]
          rfl
      | placeholder key =>
          simp only [Division.ofSegments, Division.keys, List.forall_mem_cons] at bound
          obtain ⟨filled, each, whole⟩ := ih bound.2
          refine ⟨(value key).toList :: filled, .cons ?_ each, ?_⟩
          · exact fill_placeholder_eq_ok_iff.mpr ⟨_, bound.1, rfl⟩
          · rw [Division.ofSegments, Division.fill, ← whole]
            rfl

theorem fault?_mapM_fill :
    Reading.fault? (parts.mapM (Segment.fill values)) =
      ((Division.ofSegments parts).keys.find? fun key => (values.get? key).isNone).map .unbound := by
  rw [Reading.fault?_mapM]
  induction parts with
  | nil => rfl
  | cons part rest ih =>
      cases part with
      | literal c =>
          rw [List.findSome?_cons, ih, Division.ofSegments, Division.keys_cons]
          rfl
      | placeholder key =>
          rw [List.findSome?_cons, ih, fault?_fill_placeholder, Division.ofSegments, Division.keys,
            List.find?_cons]
          cases (values.get? key).isNone <;> rfl

section Divides

variable {division : Division} {text : String}

theorem render_eq_ok (divides : division.Divides text.toList)
    (bound : ∀ key ∈ division.keys, values.get? key = some (value key)) :
    render values text = .ok (String.ofList (division.fill value)) := by
  rw [Division.divides_iff] at divides
  subst divides
  obtain ⟨filled, isFilled, whole⟩ := exists_filled bound
  rw [render, isFilled, ← whole]
  rfl

theorem render_of_plain (divides : division.Divides text.toList) (plain : division.keys = []) :
    render values text = .ok text := by
  have bound : ∀ key ∈ division.keys, values.get? key = some "" := by simp [plain]
  rw [render_eq_ok divides bound]
  cases division with
  | ending whole =>
      obtain rfl : whole = text.toList := divides.source
      rw [Division.fill, String.ofList_toList]
  | step => cases plain

theorem render_eq_error (divides : division.Divides text.toList) {before after : List String}
    {key : String} (order : division.keys = before ++ key :: after)
    (bound : ∀ key ∈ before, (values.get? key).isSome) (unbound : values.get? key = none) :
    render values text = .error (.unbound key) := by
  rw [Division.divides_iff] at divides
  subst divides
  have first : (Division.ofSegments (segments text.toList)).keys.find?
      (fun key => (values.get? key).isNone) = some key := by
    rw [List.find?_eq_some_iff_append]
    refine ⟨by simp [unbound], before, after, order, fun key member => ?_⟩
    simpa using bound key member
  have isFault : Reading.fault? ((segments text.toList).mapM (Segment.fill values)) =
      some (.unbound key) := by
    rw [fault?_mapM_fill, first, Option.map_some]
  rw [render, Reading.fault?_eq_some_iff.mp isFault]
  rfl

theorem bound_of_render {result : String} (divides : division.Divides text.toList)
    (rendered : render values text = .ok result) : ∀ key ∈ division.keys, (values.get? key).isSome := by
  cases first : division.keys.find? fun key => (values.get? key).isNone with
  | none =>
      intro key member
      have found := List.find?_eq_none.mp first key member
      simpa [Option.isSome_iff_ne_none] using found
  | some key =>
      obtain ⟨unbound, before, after, order, bound⟩ := List.find?_eq_some_iff_append.mp first
      have unbound : values.get? key = none := by simpa using unbound
      have bound : ∀ key ∈ before, (values.get? key).isSome := fun key member => by
        simpa using bound key member
      rw [render_eq_error divides order bound unbound] at rendered
      cases rendered

theorem render_congr (divides : division.Divides text.toList) {values' : Dictionary String}
    (agree : ∀ key ∈ division.keys, values.get? key = values'.get? key) :
    render values text = render values' text := by
  cases first : division.keys.find? fun key => (values.get? key).isNone with
  | none =>
      have bound : ∀ key ∈ division.keys, values.get? key = some ((values.get? key).getD "") := by
        intro key member
        have found := List.find?_eq_none.mp first key member
        obtain ⟨value, isValue⟩ := Option.ne_none_iff_exists'.mp (by simpa using found)
        rw [isValue, Option.getD_some]
      have bound' : ∀ key ∈ division.keys, values'.get? key = some ((values.get? key).getD "") :=
        fun key member => (agree key member).symm.trans (bound key member)
      rw [render_eq_ok divides bound, render_eq_ok divides bound']
  | some key =>
      obtain ⟨unbound, before, after, order, bound⟩ := List.find?_eq_some_iff_append.mp first
      have unbound : values.get? key = none := by simpa using unbound
      have unbound' : values'.get? key = none := (agree key (by simp [order])).symm.trans unbound
      have bound : ∀ key ∈ before, (values.get? key).isSome := fun key member => by
        simpa using bound key member
      have bound' : ∀ key ∈ before, (values'.get? key).isSome := fun key member => by
        rw [← agree key (by simp [order, member])]
        exact bound key member
      rw [render_eq_error divides order bound unbound, render_eq_error divides order bound' unbound']

end Divides

/-- **Rendering.** The placeholders of a text do not overlap, so that there is one division of the text at
all of them. A template renders to this division with the value of each key in the place of its
placeholder; if a key has no value, the first such key is the fault of the template of that name; and
values under other keys do not matter. -/
theorem render_divided (text : String) :
    (∀ {start start' key key'}, OccursAt text.toList start key → OccursAt text.toList start' key' →
        (start = start' ∧ key = key') ∨ start + (Segment.placeholder key).source.length ≤ start' ∨
          start' + (Segment.placeholder key').source.length ≤ start) ∧
      ∃ division : Division, division.Divides text.toList ∧
        (∀ other : Division, other.Divides text.toList → other = division) ∧
        ∀ (name : String) (values : Dictionary String),
          (∀ value : String → String, (∀ key ∈ division.keys, values.get? key = some (value key)) →
            (render values text).mapError (Failure.template name) =
              .ok (String.ofList (division.fill value))) ∧
          (∀ before key after, division.keys = before ++ key :: after →
            (∀ key ∈ before, (values.get? key).isSome) → values.get? key = none →
              (render values text).mapError (Failure.template name) =
                .error (.template name (.unbound key))) ∧
          ∀ values' : Dictionary String,
            (∀ key ∈ division.keys, values.get? key = values'.get? key) →
              render values text = render values' text := by
  refine ⟨fun occurs occurs' => occurs.apart occurs', ?_⟩
  have divides := Division.divides_iff.mpr (rfl : Division.ofSegments (segments text.toList) = _)
  refine ⟨_, divides, fun other isOther => Division.divides_iff.mp isOther, fun name values => ⟨?_, ?_, ?_⟩⟩
  · intro value bound
    rw [render_eq_ok divides bound]
    rfl
  · intro before key after order bound unbound
    rw [render_eq_error divides order bound unbound]
    rfl
  · intro values' agree
    exact render_congr divides agree

/-- The text of two placeholders, the first of them between further braces. -/
def braced : String := "\x7b\x7b\x7bA\x7d\x7d\x7d\x7b\x7bB\x7d\x7d"

theorem divides_braced : (Division.step ['\x7b'] "A" (.step ['\x7d'] "B" (.ending []))).Divides
    braced.toList := by
  have isKeyA : IsKey "A" := ⟨by decide, by simp [isKeyCharacter]⟩
  have isKeyB : IsKey "B" := ⟨by decide, by simp [isKeyCharacter]⟩
  have whole : braced.toList = '\x7b' :: ((Segment.placeholder "A").source ++
      '\x7d' :: ((Segment.placeholder "B").source ++ [])) := by decide
  rw [whole, Division.divides_cons_iff (by decide)]
  refine ⟨_, rfl, (Division.divides_source_append_iff isKeyA).mpr ⟨_, rfl, ?_⟩⟩
  rw [Division.divides_cons_iff (by decide)]
  exact ⟨_, rfl, (Division.divides_source_append_iff isKeyB).mpr ⟨_, rfl, Division.divides_nil_iff.mpr rfl⟩⟩

/-- A value that looks like a placeholder stays as it is. -/
theorem render_divided_braced :
    OccursAt braced.toList 1 "A" ∧ OccursAt braced.toList 7 "B" ∧
      ((1 = 7 ∧ "A" = "B") ∨ 1 + 5 ≤ 7 ∨ 7 + 5 ≤ 1) ∧
      (render (.ofList [("A", "\x7b\x7bB\x7d\x7d"), ("B", "2")]) braced).mapError (Failure.template "t") =
        .ok "\x7b\x7b\x7bB\x7d\x7d\x7d2" ∧
      (render (.ofList [("A", "1")]) braced).mapError (Failure.template "t") =
        .error (.template "t" (.unbound "B")) ∧
      render (.ofList [("A", "1")]) braced = render (.ofList [("A", "1"), ("C", "3")]) braced := by
  obtain ⟨apart, division, divides, unique, rendered⟩ := render_divided braced
  have first : OccursAt braced.toList 1 "A" := (divides_braced.places 1 "A").mpr (by decide)
  have second : OccursAt braced.toList 7 "B" := (divides_braced.places 7 "B").mpr (by decide)
  obtain rfl := unique _ divides_braced
  refine ⟨first, second, apart first second, ?_, ?_, ?_⟩
  · exact (rendered "t" _).1 (fun key => if key = "A" then "\x7b\x7bB\x7d\x7d" else "2") (by decide)
  · exact (rendered "t" _).2.1 ["A"] "B" [] rfl (by decide) (by decide)
  · exact (rendered "t" _).2.2 _ (by decide)

end ClusterConfig.Template
