import Navigation.Proofs.Token.Laws

/-! Texts without tokens, and what can be done to them so that none comes about. -/

namespace Navigation.Token

/-- Whether a character stands in no token, neither as a bracket nor as part of a name. -/
def separates (c : Char) : Bool :=
  c != '[' && c != ']' && !isNamePart c

/-- Whether a text has no token, and makes none with what is put behind it. -/
def Sealed (text : List Char) : Prop :=
  ∀ rest, find? rest = none → find? (text ++ rest) = none

/-- A separator is no bracket, no part of a name, and no capital letter. -/
theorem of_separates {c : Char} (apart : separates c = true) :
    c ≠ '[' ∧ c ≠ ']' ∧ isNamePart c = false ∧ c.isUpper = false := by
  simp only [separates, Bool.and_eq_true, bne_iff_ne, ne_eq, Bool.not_eq_true'] at apart
  obtain ⟨⟨opens, closes⟩, part⟩ := apart
  refine ⟨opens, closes, part, ?_⟩
  -- A capital letter would be part of a name.
  simp only [isNamePart, Bool.or_eq_false_iff] at part
  exact part.1.1

/-- A name that is not closed before a separator is not closed at all. -/
theorem closing?_append_separator {c : Char} (apart : separates c = true) (text rest : List Char) :
    closing? (text ++ c :: rest) = none ↔ closing? text = none := by
  obtain ⟨-, closes, part, -⟩ := of_separates apart
  -- Reading stops at the separator, if it has not stopped before.
  induction text with
  | nil => simp [closing?, closes, part]
  | cons d text ih =>
    simp only [List.cons_append, closing?]
    split
    · simp
    · split
      · -- A name part is moved over on both sides.
        simpa using ih
      · simp

/-- Whether a token opens a text does not depend on what is behind a separator. -/
theorem opening?_append_separator {c : Char} (apart : separates c = true) (text rest : List Char) :
    opening? (text ++ c :: rest) = none ↔ opening? text = none := by
  obtain ⟨opens, -, -, capital⟩ := of_separates apart
  rcases text with _ | ⟨d, _ | ⟨e, text⟩⟩
  · exact iff_of_true (opening?_of_ne opens rest) rfl
  · -- A bracket in front of a separator opens nothing.
    by_cases bracket : d = '['
    · subst bracket
      simp [opening?, capital]
    · simp [opening?_of_ne bracket]
  · -- Behind a bracket and a letter, what counts is whether the name is closed.
    by_cases bracket : d = '['
    · subst bracket
      simp only [List.cons_append, opening?]
      split
      · simpa using closing?_append_separator apart text rest
      · simp
    · simp [opening?_of_ne bracket]

/--
No token reaches across a separator.

Texts that were looked at one by one can therefore be joined by separators.
-/
theorem find?_append_separator {c : Char} (apart : separates c = true) (text rest : List Char) :
    find? (text ++ c :: rest) = none ↔ find? text = none ∧ find? rest = none := by
  -- The search moves along the first text, and asks at each place what opens there.
  induction text with
  | nil =>
    rw [List.nil_append, find?_cons_eq_none_of_ne (of_separates apart).1]
    simp [find?]
  | cons d text ih =>
    have here := opening?_append_separator apart (d :: text) rest
    rw [List.cons_append] at here
    rw [List.cons_append, find?_cons_eq_none_iff, find?_cons_eq_none_iff, here, ih, and_assoc]

/-- Text without an opening bracket changes nothing about the tokens behind it. -/
theorem find?_append_of_not_mem {text : List Char} (absent : '[' ∉ text) (rest : List Char) :
    find? (text ++ rest) = none ↔ find? rest = none := by
  -- The search passes over one character after the other.
  induction text with
  | nil => rfl
  | cons c text ih =>
    simp only [List.mem_cons, not_or] at absent
    rw [List.cons_append, find?_cons_eq_none_of_ne (Ne.symm absent.1), ih absent.2]

/-- A text without an opening bracket has no token. -/
theorem find?_of_not_mem {text : List Char} (absent : '[' ∉ text) : find? text = none := by
  -- Behind a text without brackets, only what comes next can hold a token.
  have alone := (find?_append_of_not_mem absent []).2 rfl
  rwa [List.append_nil] at alone

/-- Texts without opening brackets can be put behind each other. -/
theorem bracket_not_mem_append {first second : String} (one : '[' ∉ first.toList)
    (two : '[' ∉ second.toList) : '[' ∉ (first ++ second).toList := by
  rw [String.toList_append, List.mem_append, not_or]
  exact ⟨one, two⟩

/-- Texts without opening brackets can be joined by such a text. -/
theorem bracket_not_mem_intercalate {separator : String} (between : '[' ∉ separator.toList)
    {parts : List String} (absent : ∀ part ∈ parts, '[' ∉ part.toList) :
    '[' ∉ (separator.intercalate parts).toList := by
  -- The separator stands behind every part but the last.
  induction parts with
  | nil =>
    rw [String.intercalate_nil]
    exact List.not_mem_nil
  | cons first rest ih =>
    obtain ⟨here, behind⟩ := List.forall_mem_cons.1 absent
    cases rest with
    | nil =>
      rw [String.intercalate_singleton]
      exact here
    | cons second rest =>
      rw [String.intercalate_cons_cons]
      exact bracket_not_mem_append (bracket_not_mem_append here between) (ih behind)

/-- The empty text is sealed. -/
theorem sealed_nil : Sealed [] :=
  fun _ free => free

/-- A sealed text has no token. -/
theorem Sealed.find?_eq_none {text : List Char} (sealed : Sealed text) : find? text = none := by
  -- Nothing at all may come behind it, and then it stands alone.
  have alone := sealed [] rfl
  rwa [List.append_nil] at alone

/-- Sealed texts can be put behind each other. -/
theorem Sealed.append {first second : List Char} (one : Sealed first) (two : Sealed second) :
    Sealed (first ++ second) := by
  intro rest free
  -- The second part seals what comes behind it for the first one.
  rw [List.append_assoc]
  exact one _ (two _ free)

/-- A text without an opening bracket is sealed. -/
theorem sealed_of_not_mem {text : List Char} (absent : '[' ∉ text) : Sealed text :=
  fun rest free => (find?_append_of_not_mem absent rest).2 free

/-- A separator seals the text it is put behind. -/
theorem sealed_append_separator {text : List Char} (free : find? text = none) {c : Char}
    (apart : separates c = true) : Sealed (text ++ [c]) := by
  intro rest behind
  -- No token goes past the separator, so the two sides are free on their own.
  rw [List.append_assoc]
  exact (find?_append_separator apart text rest).2 ⟨free, behind⟩

/-- A text written anew: its characters stay, or give way to text that opens no token.

What they give way to starts with a separator, so that it does not continue a token either. -/
inductive Rewritten : List Char → List Char → Prop where
  | nil : Rewritten [] []
  | keep (c : Char) {text written : List Char} (tail : Rewritten text written) :
      Rewritten (c :: text) (c :: written)
  | swap (c : Char) {separator : Char} {filler text written : List Char}
      (apart : separates separator = true) (absent : '[' ∉ filler)
      (tail : Rewritten text written) :
      Rewritten (c :: text) (separator :: (filler ++ written))

/-- A name that was not closed is not closed by writing the text anew. -/
theorem Rewritten.closing?_eq_none {text written rest : List Char}
    (rewritten : Rewritten text written) (unclosed : closing? (text ++ rest) = none) :
    closing? (written ++ rest) = none := by
  -- Both texts are read alike, up to the first character that gave way.
  induction rewritten with
  | nil => exact unclosed
  | keep c tail ih =>
    simp only [List.cons_append, closing?] at unclosed ⊢
    split at unclosed
    · simp at unclosed
    · next bracket =>
      rw [if_neg bracket]
      split at unclosed
      · next part =>
        rw [if_pos part, Option.map_eq_none_iff]
        exact ih (Option.map_eq_none_iff.1 unclosed)
      · next part => rw [if_neg part]
  | swap c apart absent tail ih =>
    -- The separator is neither the bracket nor a name part, so it ends the reading.
    obtain ⟨-, closes, part, -⟩ := of_separates apart
    simp [closing?, closes, part]

/-- A character that opened no token opens none in front of a text written anew. -/
theorem Rewritten.opening?_eq_none {text written rest : List Char}
    (rewritten : Rewritten text written) (c : Char)
    (unopened : opening? (c :: (text ++ rest)) = none) :
    opening? (c :: (written ++ rest)) = none := by
  -- Only a bracket is of interest, and behind it the first character of the text.
  by_cases bracket : c = '['
  · subst bracket
    cases rewritten with
    | nil => exact unopened
    | keep d tail =>
      simp only [List.cons_append, opening?] at unopened ⊢
      split at unopened
      · next capital =>
        rw [if_pos capital, Option.map_eq_none_iff]
        exact tail.closing?_eq_none (Option.map_eq_none_iff.1 unopened)
      · next capital => rw [if_neg capital]
    | swap d apart absent tail =>
      -- The text now starts with the separator, which is no capital letter.
      simp [opening?, (of_separates apart).2.2.2]
  · exact opening?_of_ne bracket _

/-- Writing a text anew makes no token, not even with what is behind it. -/
theorem Rewritten.find?_eq_none {text written rest : List Char}
    (rewritten : Rewritten text written) (free : find? (text ++ rest) = none) :
    find? (written ++ rest) = none := by
  -- The search goes through both texts at once.
  induction rewritten with
  | nil => exact free
  | keep c tail ih =>
    rw [List.cons_append, find?_cons_eq_none_iff] at free ⊢
    exact ⟨tail.opening?_eq_none c free.1, ih free.2⟩
  | swap c apart absent tail ih =>
    rw [List.cons_append, find?_cons_eq_none_iff] at free
    -- Neither the separator nor the filler opens anything.
    rw [List.cons_append, find?_cons_eq_none_of_ne (of_separates apart).1, List.append_assoc,
      find?_append_of_not_mem absent]
    exact ih free.2

/-- A sealed text stays sealed when it is written anew. -/
theorem Rewritten.sealed {text written : List Char} (rewritten : Rewritten text written)
    (sealed : Sealed text) : Sealed written :=
  -- Only the text itself is rewritten, so what comes behind it stays.
  fun rest free => rewritten.find?_eq_none (sealed rest free)

end Navigation.Token
