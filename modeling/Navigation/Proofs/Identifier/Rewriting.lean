import Navigation.Identifier

/-! The one pass that makes an identifier does what removing one character after the other does. -/

namespace Navigation.Identifier

/--
A text that loses its first character that is no letter, for as long as there is one.

What stands in the place of the lost character is put into uppercase where that is a single
character. It may be no letter even then, and is the next one to go.
-/
def rewritten (uppercase : Char → List Char) (text : List Char) : List Char :=
  let place := text.findIdx (!·.isAlpha)
  if place < text.length then
    rewritten uppercase <| (text.eraseIdx place).modify place fun c =>
      match uppercase c with
      | [one] => one
      | _ => c
  else text
termination_by text.length
decreasing_by
  rw [List.length_modify, List.length_eraseIdx_of_lt (by assumption)]
  omega

variable {uppercase : Char → List Char} {kept : List Char}

/-- Among letters, no character is found that could go. -/
theorem findIdx_of_letters (alpha : ∀ c ∈ kept, c.isAlpha = true) :
    kept.findIdx (!·.isAlpha) = kept.length :=
  -- No character that is kept is to be removed.
  List.findIdx_eq_length_of_false fun c member => by simp [alpha c member]

/-- A text of letters is left alone. -/
theorem rewritten_of_letters (alpha : ∀ c ∈ kept, c.isAlpha = true) :
    rewritten uppercase kept = kept := by
  -- No character is found that would have to be removed.
  rw [rewritten, findIdx_of_letters alpha, if_neg (Nat.lt_irrefl _)]

/-- Behind letters, the first other character goes and the next one is put into uppercase. -/
theorem rewritten_append_cons (alpha : ∀ c ∈ kept, c.isAlpha = true) {c : Char}
    (other : c.isAlpha = false) (rest : List Char) :
    rewritten uppercase (kept ++ c :: rest) =
      rewritten uppercase (kept ++ rest.modifyHead (single uppercase)) := by
  -- The letters are passed over, and the search ends behind them.
  have place : (kept ++ c :: rest).findIdx (!·.isAlpha) = kept.length := by
    rw [List.findIdx_append, findIdx_of_letters alpha, if_neg (Nat.lt_irrefl _), List.findIdx_cons]
    simp [other]
  have removed : (kept ++ c :: rest).eraseIdx kept.length = kept ++ rest := by
    rw [List.eraseIdx_append_of_length_le (Nat.le_refl _), Nat.sub_self, List.eraseIdx_cons_zero]
  rw [rewritten, place, if_pos (by simp), removed, List.modify_eq_take_drop]
  simp only [List.take_left, List.drop_left]
  rfl

/-- A gap in front of a text puts its first character into uppercase. -/
theorem letters_gap (upper : Char → Char) (text : List Char) :
    letters upper true text = letters upper false (text.modifyHead upper) := by
  -- A gap does nothing but change the character behind it.
  cases text <;> rfl

/--
The pass over a text that follows letters finishes the rewriting of the whole.

All that the pass has to remember is whether the character before was lost, because nothing else
of the text changes while it is rewritten.
-/
theorem rewritten_append (alpha : ∀ c ∈ kept, c.isAlpha = true) (rest : List Char) :
    rewritten uppercase (kept ++ rest) = kept ++ letters (single uppercase) false rest := by
  -- Each step moves a letter over to those that are kept, or makes the text shorter.
  induction length : rest.length generalizing kept rest with
  | zero =>
    obtain rfl := List.length_eq_zero_iff.1 length
    rw [List.append_nil, rewritten_of_letters alpha, letters, List.append_nil]
  | succ n ih =>
    obtain ⟨c, tail, rfl⟩ := List.exists_cons_of_length_eq_add_one length
    have shorter : tail.length = n := by simpa using length
    cases letter : c.isAlpha with
    | true =>
      have more : ∀ d ∈ kept ++ [c], d.isAlpha = true := by
        simp only [List.forall_mem_append, List.forall_mem_singleton]
        exact ⟨alpha, letter⟩
      calc rewritten uppercase (kept ++ c :: tail)
          = rewritten uppercase (kept ++ [c] ++ tail) := by simp
        _ = kept ++ [c] ++ letters (single uppercase) false tail := ih more tail shorter
        _ = kept ++ letters (single uppercase) false (c :: tail) := by simp [letters, letter]
    | false =>
      -- The next character takes the place of the lost one, as it does behind a gap.
      have tailLength : (tail.modifyHead (single uppercase)).length = n := by
        rw [List.length_modifyHead, shorter]
      calc rewritten uppercase (kept ++ c :: tail)
          = rewritten uppercase (kept ++ tail.modifyHead (single uppercase)) :=
            rewritten_append_cons alpha letter tail
        _ = kept ++ letters (single uppercase) false (tail.modifyHead (single uppercase)) :=
            ih alpha _ tailLength
        _ = kept ++ letters (single uppercase) true tail := by rw [letters_gap]
        _ = kept ++ letters (single uppercase) false (c :: tail) := by simp [letters, letter]

/-- Tables that give the same letters give the same identifiers. -/
theorem letters_congr {upper other : Char → Char}
    (same : ∀ c, (upper c).isAlpha = true ∨ (other c).isAlpha = true → upper c = other c)
    (gap : Bool) (text : List Char) : letters upper gap text = letters other gap text := by
  -- A character that is no letter by either of them is lost on both sides.
  induction text generalizing gap with
  | nil => rfl
  | cons c rest ih =>
    cases gap with
    | false => simp only [letters, Bool.false_eq_true, if_false, ih]
    | true =>
      simp only [letters, if_true]
      by_cases alpha : (upper c).isAlpha = true ∨ (other c).isAlpha = true
      · rw [same c alpha, ih, ih]
      · simp only [not_or, Bool.not_eq_true] at alpha
        simp only [alpha.1, alpha.2, Bool.false_eq_true, if_false, ih]

/-- Whether a table gives letters for the same characters as the one that is used, and the same. -/
def Agrees (uppercase : Char → List Char) : Prop :=
  ∀ c, (single uppercase c).isAlpha = true ∨ (single table c).isAlpha = true →
    single uppercase c = single table c

/-- A table that also has the two letters of a sharp s agrees with the one that is used. -/
theorem agrees_sharp : Agrees fun c => if c = 'ß' then ['S', 'S'] else table c := by
  intro c alpha
  by_cases sharp : c = 'ß'
  · -- Neither the sharp s nor what becomes of it is a letter.
    subst sharp
    revert alpha
    decide
  · simp [single, sharp]

/--
An identifier is what the rewriting leaves of a route, whatever the table of uppercases.

The table that is used can thus be replaced by any that agrees with it about letters.
-/
theorem ofRoute_eq_rewritten :
    (∀ uppercase route,
      ofRouteBy uppercase route = String.ofList (rewritten uppercase route.toList)) ∧
    ∀ uppercase, Agrees uppercase → ∀ route,
      ofRoute route = String.ofList (rewritten uppercase route.toList) := by
  have general : ∀ uppercase route,
      ofRouteBy uppercase route = String.ofList (rewritten uppercase route.toList) := by
    intro uppercase route
    -- Nothing is kept yet when the pass starts.
    have whole : rewritten uppercase ([] ++ route.toList) =
        [] ++ letters (single uppercase) false route.toList :=
      rewritten_append (by simp) route.toList
    rw [List.nil_append, List.nil_append] at whole
    rw [ofRouteBy, whole]
  refine ⟨general, ?_⟩
  intro uppercase agrees route
  rw [← general, ofRoute, ofRouteBy, ofRouteBy, letters_congr agrees]

/-- A table that also has the two letters of a sharp s, which are not a single character. -/
theorem ofRoute_eq_rewritten_of_sharp_s :
    let uppercase : Char → List Char := fun c => if c = 'ß' then ['S', 'S'] else table c
    ofRoute "ſide-ßb_ſet/ı" = String.ofList (rewritten uppercase "ſide-ßb_ſet/ı".toList) ∧
      ofRoute "ſide-ßb_ſet/ı" = "IdeBSetI" := by
  -- The sharp s has two capital letters, so it is left as it is, and removed.
  intro uppercase
  exact ⟨ofRoute_eq_rewritten.2 uppercase agrees_sharp _, by decide⟩

end Navigation.Identifier
