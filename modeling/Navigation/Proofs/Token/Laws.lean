import Navigation.Token

/-! What the reader of tokens accepts: exactly the bracketed names, wherever they stand. -/

namespace Navigation.Token

/-- The closing bracket is no part of a name. -/
theorem not_isNamePart_close : isNamePart ']' = false := by
  decide

/-- A name is closed exactly by the first bracket behind a run of name parts. -/
theorem closing?_eq_some_iff {text name after : List Char} :
    closing? text = some (name, after) ↔
      (∀ c ∈ name, isNamePart c = true) ∧ text = name ++ ']' :: after := by
  constructor
  · -- Every character moved into the name was tested on the way.
    intro closed
    refine ⟨?_, eq_of_closing? closed⟩
    induction text generalizing name with
    | nil => simp [closing?] at closed
    | cons c rest ih =>
      rw [closing?] at closed
      split at closed
      · simp_all
      · split at closed
        · next part =>
          obtain ⟨⟨tail, left⟩, found, same⟩ := Option.map_eq_some_iff.1 closed
          simp only [Prod.mk.injEq] at same
          obtain ⟨rfl, rfl⟩ := same
          exact List.forall_mem_cons.2 ⟨part, ih found⟩
        · simp at closed
  · -- Reading moves over the name, since none of its characters is the bracket.
    rintro ⟨parts, rfl⟩
    induction name with
    | nil => simp [closing?]
    | cons c rest ih =>
      have part : isNamePart c = true := parts c (by simp)
      -- A name part is never the bracket, so reading does not stop early.
      have open_ : c ≠ ']' := by
        rintro rfl
        simp [not_isNamePart_close] at part
      have tail := ih fun d member => parts d (by simp [member])
      simp [closing?, open_, part, tail]

/-- A token opens a text exactly if the text starts with a name in brackets. -/
theorem opening?_eq_some_iff {text name after : List Char} :
    opening? text = some (name, after) ↔ isName name = true ∧ text = bracket name ++ after := by
  constructor
  · -- The capital letter and the run behind it make up the name.
    intro opened
    refine ⟨?_, eq_of_opening? opened⟩
    unfold opening? at opened
    split at opened
    · split at opened
      · next capital =>
        obtain ⟨⟨tail, left⟩, found, same⟩ := Option.map_eq_some_iff.1 opened
        simp only [Prod.mk.injEq] at same
        obtain ⟨rfl, rfl⟩ := same
        simpa [isName, capital] using (closing?_eq_some_iff.1 found).1
      · simp at opened
    · simp at opened
  · -- A name is never empty, and its first letter is what the reader asks for.
    rintro ⟨named, rfl⟩
    cases name with
    | nil => simp [isName] at named
    | cons c rest =>
      simp only [isName, Bool.and_eq_true, List.all_eq_true] at named
      have closed : closing? (rest ++ ']' :: after) = some (rest, after) :=
        closing?_eq_some_iff.2 ⟨named.2, rfl⟩
      simp [bracket, opening?, named.1, closed]

/-- Only a bracket opens a token. -/
theorem opening?_of_ne {c : Char} (other : c ≠ '[') (rest : List Char) :
    opening? (c :: rest) = none := by
  -- The reader's first case asks for the bracket.
  unfold opening?
  split
  · simp_all
  · rfl

/-- A text has no token exactly if none opens at its front and its tail has none. -/
theorem find?_cons_eq_none_iff {c : Char} {rest : List Char} :
    find? (c :: rest) = none ↔ opening? (c :: rest) = none ∧ find? rest = none := by
  -- The search tries the front first and moves on by one character.
  rw [find?]
  split
  · next opened => simp [opened]
  · next absent => simp [absent]

/-- A character other than the bracket changes nothing about the tokens behind it. -/
theorem find?_cons_eq_none_of_ne {c : Char} (other : c ≠ '[') {rest : List Char} :
    find? (c :: rest) = none ↔ find? rest = none := by
  -- A token starts at a bracket, so it starts behind the character.
  simp [find?_cons_eq_none_iff, opening?_of_ne other]

/-- A text has no token exactly if none is found. -/
theorem occursIn_eq_false_iff {text : String} :
    occursIn text = false ↔ find? text.toList = none := by
  simp [occursIn]

end Navigation.Token
