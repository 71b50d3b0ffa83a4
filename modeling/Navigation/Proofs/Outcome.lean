/-! When a computation that may fail gives a result: what its parts have given then. -/

namespace Navigation.Outcome

variable {ε α β : Type}

instance decidableEq [DecidableEq ε] [DecidableEq α] : DecidableEq (Except ε α)
  | .ok left, .ok right => decidable_of_iff (left = right) (by simp)
  | .error left, .error right => decidable_of_iff (left = right) (by simp)
  | .ok _, .error _ => isFalse nofun
  | .error _, .ok _ => isFalse nofun

/-- A result that is there is a result. -/
theorem isSome_toOption_iff {outcome : Except ε α} :
    outcome.toOption.isSome ↔ ∃ value, outcome = .ok value := by
  -- Only a result is turned into something.
  cases outcome <;> simp [Except.toOption]

/-- A changed result comes from a result. -/
theorem map_eq_ok_iff {change : α → β} {outcome : Except ε α} {result : β} :
    outcome.map change = .ok result ↔ ∃ value, outcome = .ok value ∧ change value = result := by
  -- An error is handed on, and a result is changed.
  cases outcome <;> simp [Except.map]

/-- A result stays as it is when the error is changed. -/
@[simp] theorem mapError_ok {ε' : Type} (change : ε → ε') (value : α) :
    (.ok value : Except ε α).mapError change = .ok value :=
  rfl

/-- An error is changed as it is said. -/
@[simp] theorem mapError_error {ε' : Type} (change : ε → ε') (error : ε) :
    (.error error : Except ε α).mapError change = .error (change error) :=
  rfl

/-- Changing the error does not matter to the result. -/
theorem mapError_eq_ok_iff {ε' : Type} {change : ε → ε'} {outcome : Except ε α} {result : α} :
    outcome.mapError change = .ok result ↔ outcome = .ok result := by
  -- A result is handed on, and an error stays one.
  cases outcome <;> simp

/-- A sequence gives a result exactly if both of its steps do. -/
theorem bind_eq_ok_iff {next : α → Except ε β} {outcome : Except ε α} {result : β} :
    (outcome >>= next) = .ok result ↔ ∃ value, outcome = .ok value ∧ next value = .ok result := by
  -- After an error there is no second step.
  cases outcome <;> simp [Bind.bind, Except.bind]

/-- What a computation fails with, if it fails. -/
def error? : Except ε α → Option ε
  | .ok _ => none
  | .error error => some error

/-- A result is no failure. -/
@[simp] theorem error?_ok (value : α) : error? (.ok value : Except ε α) = none :=
  rfl

/-- A failure fails with its error. -/
@[simp] theorem error?_error (error : ε) : error? (.error error : Except ε α) = some error :=
  rfl

/-- A computation does not fail exactly if it gives a result. -/
theorem error?_eq_none_iff {outcome : Except ε α} :
    error? outcome = none ↔ ∃ value, outcome = .ok value := by
  -- There is an error or a result.
  cases outcome <;> simp [error?]

/-- A computation fails with an error exactly if that is its outcome. -/
theorem error?_eq_some_iff {outcome : Except ε α} {error : ε} :
    error? outcome = some error ↔ outcome = .error error := by
  -- There is an error or a result.
  cases outcome <;> simp [error?]

/-- Changing the result does not matter to the error. -/
theorem error?_map (change : α → β) (outcome : Except ε α) :
    error? (outcome.map change) = error? outcome := by
  -- An error is handed on as it is.
  cases outcome <;> rfl

/-- Changing the error does not matter to whether there is one. -/
theorem error?_mapError {ε' : Type} (change : ε → ε') (outcome : Except ε α) :
    error? (outcome.mapError change) = (error? outcome).map change := by
  -- Where there is a result, there is no error on either side.
  cases outcome <;> rfl

/-- A sequence fails as its first step, or else as its second does after the first. -/
theorem error?_bind_eq_or {outcome : Except ε α} {next : α → Except ε β} {later : Option ε}
    (behind : ∀ value, outcome = .ok value → error? (next value) = later) :
    error? (outcome >>= next) = (error? outcome).or later := by
  -- The second step is only made after a result.
  cases outcome with
  | error error => rfl
  | ok value => exact behind value rfl

/-- A list of steps gives a list of results exactly if each step gives the result at its place. -/
theorem mapM_eq_ok_iff {step : α → Except ε β} {values : List α} {results : List β} :
    values.mapM step = .ok results ↔ values.map step = results.map .ok := by
  -- The first step comes first, and the list fails with the first one that fails.
  induction values generalizing results with
  | nil => cases results <;> simp [Pure.pure, Except.pure]
  | cons value rest ih =>
    rw [List.mapM_cons, bind_eq_ok_iff]
    constructor
    · rintro ⟨result, given, rest⟩
      obtain ⟨others, behind, same⟩ := bind_eq_ok_iff.1 rest
      simp only [Pure.pure, Except.pure, Except.ok.injEq] at same
      subst same
      simp [given, ih.1 behind]
    · intro each
      cases results with
      | nil => simp at each
      | cons result others =>
        simp only [List.map_cons, List.cons.injEq] at each
        exact ⟨result, each.1, bind_eq_ok_iff.2 ⟨others, ih.2 each.2, rfl⟩⟩

/-- A list of readings gives a list of results exactly if each gives the result at its place. -/
theorem mapM_eq_some_iff {read : α → Option β} {values : List α} {results : List β} :
    values.mapM read = some results ↔ values.map read = results.map some := by
  -- The first reading comes first, and the list fails with the first one that fails.
  induction values generalizing results with
  | nil => cases results <;> simp
  | cons value rest ih =>
    simp only [List.mapM_cons, Option.bind_eq_bind, Option.bind_eq_some_iff, Option.pure_def,
      Option.some.injEq, ih]
    cases results with
    | nil => simp
    | cons result others => simp

end Navigation.Outcome
