import Mathlib.Data.List.Forall2

set_option autoImplicit false

/-!
# Readings

Laws of computations that end in a value or in a fault: when a chain of them succeeds, when a list of
them does, and which fault they end in otherwise.
-/

namespace ClusterConfig.Reading

variable {ε ε' α β : Type}

theorem bind_eq_ok_iff {reading : Except ε α} {next : α → Except ε β} {result : β} :
    (reading >>= next) = .ok result ↔ ∃ value, reading = .ok value ∧ next value = .ok result := by
  cases reading with
  | error fault => simp [bind, Except.bind]
  | ok value => simp [bind, Except.bind]

theorem pure_eq_ok_iff {value result : α} :
    (pure value : Except ε α) = .ok result ↔ value = result := by
  simp [pure, Except.pure]

theorem mapError_eq_ok_iff {reading : Except ε α} {change : ε → ε'} {value : α} :
    reading.mapError change = .ok value ↔ reading = .ok value := by
  cases reading with
  | error fault => simp [Except.mapError]
  | ok value' => simp [Except.mapError]

/-- A list of readings succeeds exactly if each of them does; the values keep the order. -/
theorem mapM_eq_ok_iff {read : α → Except ε β} {items : List α} {values : List β} :
    items.mapM read = .ok values ↔
      List.Forall₂ (fun item value => read item = .ok value) items values := by
  induction items generalizing values with
  | nil => cases values <;> simp [pure, Except.pure]
  | cons item rest ih =>
      simp only [List.mapM_cons, bind_eq_ok_iff, pure_eq_ok_iff]
      constructor
      · intro facts
        obtain ⟨value, first, others, later, rfl⟩ := facts
        exact .cons first (ih.mp later)
      · intro related
        cases related with
        | cons first later => exact ⟨_, first, _, ih.mpr later, rfl⟩

/-- The same for readings that tell nothing about their failure. -/
theorem mapM_eq_some_iff {read : α → Option β} {items : List α} {values : List β} :
    items.mapM read = some values ↔
      List.Forall₂ (fun item value => read item = some value) items values := by
  induction items generalizing values with
  | nil => cases values <;> simp
  | cons item rest ih =>
      simp only [List.mapM_cons, bind, Option.bind_eq_some_iff, pure, Option.some.injEq]
      constructor
      · intro facts
        obtain ⟨value, first, others, later, rfl⟩ := facts
        exact .cons first (ih.mp later)
      · intro related
        cases related with
        | cons first later => exact ⟨_, first, _, ih.mpr later, rfl⟩

theorem mapM_mapError (read : α → Except ε β) (change : ε → ε') (items : List α) :
    (items.mapM fun item => (read item).mapError change) = (items.mapM read).mapError change := by
  induction items with
  | nil => rfl
  | cons item rest ih =>
      rw [List.mapM_cons, List.mapM_cons, ih]
      cases read item with
      | error fault => rfl
      | ok value =>
          cases rest.mapM read with
          | error fault => rfl
          | ok values => rfl

/-- Related values exist for a list of items if they do for each of them. -/
theorem exists_forall₂_iff {related : α → β → Prop} {items : List α} :
    (∃ values, List.Forall₂ related items values) ↔ ∀ item ∈ items, ∃ value, related item value := by
  induction items with
  | nil => simp
  | cons item rest ih =>
      simp only [List.forall₂_cons_left_iff, List.forall_mem_cons, ← ih]
      constructor
      · intro facts
        obtain ⟨_, value, values, first, later, rfl⟩ := facts
        exact ⟨⟨value, first⟩, values, later⟩
      · intro facts
        obtain ⟨⟨value, first⟩, values, later⟩ := facts
        exact ⟨_, value, values, first, later, rfl⟩

/-- The fault that a reading ends in, if it does not succeed. -/
def fault? : Except ε α → Option ε
  | .ok _ => none
  | .error fault => some fault

@[simp] theorem fault?_ok (value : α) : fault? (.ok value : Except ε α) = none := rfl

@[simp] theorem fault?_error (fault : ε) : fault? (.error fault : Except ε α) = some fault := rfl

theorem fault?_eq_some_iff {reading : Except ε α} {fault : ε} :
    fault? reading = some fault ↔ reading = .error fault := by
  cases reading <;> simp

theorem fault?_eq_none_iff {reading : Except ε α} :
    fault? reading = none ↔ ∃ value, reading = .ok value := by
  cases reading <;> simp

theorem fault?_mapError (reading : Except ε α) (change : ε → ε') :
    fault? (reading.mapError change) = (fault? reading).map change := by
  cases reading <;> rfl

theorem exists_ok_of_any {reading : Except ε α} {holds : α → Bool}
    (checked : reading.toOption.any holds = true) :
    ∃ value, reading = .ok value ∧ holds value = true := by
  cases reading with
  | error fault => cases checked
  | ok value => exact ⟨value, rfl, checked⟩

/-- A chain ends in the fault of its first link, or else in the fault of what follows. -/
theorem fault?_bind {reading : Except ε α} {next : α → Except ε β} {later : Option ε}
    (follows : ∀ value, reading = .ok value → fault? (next value) = later) :
    fault? (reading >>= next) = (fault? reading).or later := by
  cases reading with
  | error fault => rfl
  | ok value => exact follows value rfl

/-- A list of readings ends in the fault of the first of them that fails. -/
theorem fault?_mapM (read : α → Except ε β) (items : List α) :
    fault? (items.mapM read) = items.findSome? fun item => fault? (read item) := by
  induction items with
  | nil => rfl
  | cons item rest ih =>
      have follows : ∀ value, read item = .ok value →
          fault? (rest.mapM read >>= fun values => pure (value :: values)) =
            fault? (rest.mapM read) := by
        intro value _
        cases rest.mapM read <;> rfl
      rw [List.mapM_cons, fault?_bind follows, ih, List.findSome?_cons]
      cases fault? (read item) <;> rfl

/-!
## Pairs of readings
-/

/-- Two readings of which both succeed, with related values, or both fail, with related faults. -/
inductive Similar (faults : ε → ε' → Prop) (values : α → β → Prop) :
    Except ε α → Except ε' β → Prop where
  | ok {left right} : values left right → Similar faults values (.ok left) (.ok right)
  | error {left right} : faults left right → Similar faults values (.error left) (.error right)

section Similar

variable {α' β' : Type} {faults : ε → ε' → Prop} {values : α → β → Prop} {results : α' → β' → Prop}

theorem Similar.of_fault? {left : Except ε α} {right : Except ε' β}
    (related : Option.Rel faults (fault? left) (fault? right))
    (same : ∀ value value', left = .ok value → right = .ok value' → values value value') :
    Similar faults values left right := by
  cases left with
  | ok value =>
      cases right with
      | ok value' => exact .ok (same value value' rfl rfl)
      | error fault => cases related
  | error fault =>
      cases right with
      | ok value => cases related
      | error fault' =>
          cases related with
          | some held => exact .error held

theorem Similar.mono {faults' : ε → ε' → Prop} {values' : α → β → Prop} {left : Except ε α}
    {right : Except ε' β} (similar : Similar faults values left right)
    (weaker : ∀ fault fault', faults fault fault' → faults' fault fault')
    (follows : ∀ value value', values value value' → values' value value') :
    Similar faults' values' left right := by
  cases similar with
  | ok held => exact .ok (follows _ _ held)
  | error held => exact .error (weaker _ _ held)

theorem Similar.imp {values' : α → β → Prop} {left : Except ε α} {right : Except ε' β}
    (similar : Similar faults values left right)
    (follows : ∀ value value', values value value' → values' value value') :
    Similar faults values' left right :=
  similar.mono (fun _ _ held => held) follows

theorem Similar.mapError {ε₁ ε₂ : Type} {faults' : ε₁ → ε₂ → Prop} {change : ε → ε₁}
    {change' : ε' → ε₂} {left : Except ε α} {right : Except ε' β}
    (similar : Similar faults values left right)
    (follows : ∀ fault fault', faults fault fault' → faults' (change fault) (change' fault')) :
    Similar faults' values (left.mapError change) (right.mapError change') := by
  cases similar with
  | ok held => exact .ok held
  | error held => exact .error (follows _ _ held)

theorem Similar.bind {left : Except ε α} {right : Except ε' β} {next : α → Except ε α'}
    {next' : β → Except ε' β'} (similar : Similar faults values left right)
    (follows : ∀ value value', values value value' →
      Similar faults results (next value) (next' value')) :
    Similar faults results (left >>= next) (right >>= next') := by
  cases similar with
  | ok held => exact follows _ _ held
  | error held => exact .error held

theorem Similar.mapM {read : α' → Except ε α} {read' : β' → Except ε' β} {items : List α'}
    {items' : List β'}
    (each : List.Forall₂ (fun item item' => Similar faults values (read item) (read' item'))
      items items') :
    Similar faults (List.Forall₂ values) (items.mapM read) (items'.mapM read') := by
  induction each with
  | nil => exact .ok .nil
  | cons first later ih =>
      rw [List.mapM_cons, List.mapM_cons]
      refine first.bind fun value value' held => ?_
      exact ih.bind fun rest rest' held' => .ok (.cons held held')

theorem Similar.refl {same : ε → ε → Prop} (reflexive : ∀ fault, same fault fault)
    (reading : Except ε α) : Similar same Eq reading reading := by
  cases reading with
  | ok value => exact .ok rfl
  | error fault => exact .error (reflexive fault)

theorem Similar.exists_ok_iff {left : Except ε α} {right : Except ε' β}
    (similar : Similar faults values left right) :
    (∃ value, left = .ok value) ↔ ∃ value, right = .ok value := by
  cases similar <;> simp

theorem Similar.of_exists_ok_iff {left : Except ε α} {right : Except ε' β}
    (both : (∃ value, left = .ok value) ↔ ∃ value, right = .ok value) :
    Similar (fun _ _ => True) (fun _ _ => True) left right := by
  cases left with
  | ok value =>
      obtain ⟨value', rfl⟩ := both.mp ⟨value, rfl⟩
      exact .ok .intro
  | error fault =>
      cases right with
      | ok value' =>
          obtain ⟨value, isOk⟩ := both.mpr ⟨value', rfl⟩
          cases isOk
      | error fault' => exact .error .intro

/-- If the first of two options decides, so do related ones. -/
theorem rel_or {left left' : Option ε} {right right' : Option ε'}
    (first : Option.Rel faults left right) (second : Option.Rel faults left' right') :
    Option.Rel faults (left.or left') (right.or right') := by
  cases first with
  | some held => exact .some held
  | none => exact second

theorem rel_find? {related : ε → ε' → Prop} {holds : α → Bool} {fault : α → ε} {fault' : α → ε'}
    {items items' : List α}
    (found : (∃ item ∈ items, holds item = true) ↔ ∃ item ∈ items', holds item = true)
    (each : ∀ item item', related (fault item) (fault' item')) :
    Option.Rel related ((items.find? holds).map fault) ((items'.find? holds).map fault') := by
  rw [← List.find?_isSome, ← List.find?_isSome] at found
  cases first : items.find? holds with
  | none =>
      cases second : items'.find? holds with
      | none => exact .none
      | some item => simp [first, second] at found
  | some item =>
      cases second : items'.find? holds with
      | none => simp [first, second] at found
      | some item' => exact .some (each item item')

end Similar

end ClusterConfig.Reading
