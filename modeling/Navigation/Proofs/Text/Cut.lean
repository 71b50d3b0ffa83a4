import Navigation.Text.Cut

/-! Cutting a text at a mark: its parts, and how the text is put together from them again. -/

namespace Navigation

/-- A text without a character that starts a longer one ends before that character. -/
theorem prefix_of_prefix_append {mark : Char} {part text rest : List Char} (absent : mark ∉ part)
    (front : part <+: text ++ mark :: rest) : part <+: text := by
  -- Both texts are followed to the end of one of them.
  induction part generalizing text with
  | nil => exact List.nil_prefix
  | cons d part ih =>
    obtain ⟨other, absent⟩ := not_or.1 (mt List.mem_cons.2 absent)
    cases text with
    | nil => exact absurd (List.cons_prefix_cons.1 front).1.symm other
    | cons e text =>
      obtain ⟨same, front⟩ := List.cons_prefix_cons.1 front
      exact List.cons_prefix_cons.2 ⟨same, ih absent front⟩

/-- The parts of a text are never none at all. -/
theorem cutAt_ne_nil (mark : Char) (text : List Char) : cutAt mark text ≠ [] := by
  -- Every branch puts at least one part in front.
  cases text with
  | nil => simp [cutAt]
  | cons c rest =>
    rw [cutAt]
    split
    · simp
    · split <;> simp

/-- A mark divides the parts in front of it from those behind. -/
theorem cutAt_append_mark (mark : Char) (front back : List Char) :
    cutAt mark (front ++ mark :: back) = cutAt mark front ++ cutAt mark back := by
  -- A character in front of the mark joins the first part, which is in front as well.
  induction front with
  | nil => simp [cutAt]
  | cons c rest ih =>
    rw [List.cons_append, cutAt, cutAt, ih]
    by_cases here : c = mark
    · simp [here]
    · obtain ⟨first, more, parts⟩ := List.exists_cons_of_ne_nil (cutAt_ne_nil mark rest)
      simp [here, parts]

/-- A text without marks is one part. -/
theorem cutAt_of_not_mem {mark : Char} {text : List Char} (absent : mark ∉ text) :
    cutAt mark text = [text] := by
  -- Every character goes to the one part there is.
  induction text with
  | nil => rfl
  | cons c rest ih =>
    obtain ⟨other, deeper⟩ := not_or.1 (mt List.mem_cons.2 absent)
    rw [cutAt, if_neg (Ne.symm other), ih deeper]

/-- No part of a text has the mark that divides it from the others. -/
theorem not_mem_of_mem_cutAt {mark : Char} {text part : List Char}
    (listed : part ∈ cutAt mark text) : mark ∉ part := by
  -- A character that is no mark joins the first part, and a mark joins none.
  induction text generalizing part with
  | nil =>
    rw [cutAt, List.mem_singleton] at listed
    simp [listed]
  | cons c rest ih =>
    obtain ⟨first, more, parts⟩ := List.exists_cons_of_ne_nil (cutAt_ne_nil mark rest)
    rw [parts, List.forall_mem_cons] at ih
    rw [cutAt, parts] at listed
    split at listed
    · -- A mark starts a new part, which is empty so far.
      rcases List.mem_cons.1 listed with rfl | listed
      · exact List.not_mem_nil
      · rcases List.mem_cons.1 listed with rfl | listed
        · exact ih.1
        · exact ih.2 part listed
    · next other =>
      rcases List.mem_cons.1 listed with rfl | listed
      · simp [Ne.symm other, ih.1]
      · exact ih.2 part listed

/-- Parts without marks are found again where marks were put between them. -/
theorem cutAt_intercalate {mark : Char} {parts : List (List Char)} (filled : parts ≠ [])
    (absent : ∀ part ∈ parts, mark ∉ part) : cutAt mark ([mark].intercalate parts) = parts := by
  -- One part after the other is cut off at the mark behind it.
  induction parts with
  | nil => exact absurd rfl filled
  | cons first rest ih =>
    obtain ⟨alone, others⟩ := List.forall_mem_cons.1 absent
    cases rest with
    | nil => simpa using cutAt_of_not_mem alone
    | cons next rest =>
      rw [List.intercalate_cons_cons, List.append_assoc, List.singleton_append, cutAt_append_mark,
        cutAt_of_not_mem alone, ih (by simp) others, List.singleton_append]

/-- A text is put together again from its parts, with a mark between each and the next. -/
theorem intercalate_cutAt (mark : Char) (text : List Char) :
    [mark].intercalate (cutAt mark text) = text := by
  -- A mark starts a part of its own, and any other character joins the first part.
  induction text with
  | nil => rfl
  | cons c rest ih =>
    obtain ⟨first, more, parts⟩ := List.exists_cons_of_ne_nil (cutAt_ne_nil mark rest)
    rw [parts] at ih
    rw [cutAt, parts]
    split
    · next here => rw [List.intercalate_cons_cons, ih, here, List.nil_append, List.singleton_append]
    · -- The first part has become longer, whether there are others or not.
      cases more with
      | nil => simpa using ih
      | cons next more =>
        rw [List.intercalate_cons_cons] at ih ⊢
        simp only [List.cons_append, ih]

/-- A text is known from its parts. -/
theorem cutAt_injective (mark : Char) : Function.Injective (cutAt mark) :=
  Function.LeftInverse.injective (intercalate_cutAt mark)

end Navigation
