import Navigation.Proofs.Identifier.Rewriting

/-! Runs of separators in a route: any of them does what any other does, and cuts the route. -/

namespace Navigation.Identifier

/-- Whether a character separates: an ASCII character that is no letter. -/
def isSeparator (c : Char) : Bool :=
  c.toNat < 128 && !c.isAlpha

/-- Separators and nothing else, and at least one of them. -/
structure Run (text : List Char) : Prop where
  some : text ≠ []
  separators : ∀ c ∈ text, isSeparator c = true

/-- Whether a table of uppercases leaves separators as they are. -/
def KeepsSeparators (uppercase : Char → List Char) : Prop :=
  ∀ c, isSeparator c = true → uppercase c = [c]

/-- Texts that are the same but for their separators, where both have some, and at their ends. -/
inductive DifferInRuns : List Char → List Char → Prop where
  | ends {first second : List Char} (one : ∀ c ∈ first, isSeparator c = true)
      (other : ∀ c ∈ second, isSeparator c = true) : DifferInRuns first second
  | run {first second rest others : List Char} (one : Run first) (other : Run second)
      (tail : DifferInRuns rest others) : DifferInRuns (first ++ rest) (second ++ others)
  | keep (c : Char) {rest others : List Char} (tail : DifferInRuns rest others) :
      DifferInRuns (c :: rest) (c :: others)

/-- A separator is no letter. -/
theorem isAlpha_of_isSeparator {c : Char} (separator : isSeparator c = true) :
    c.isAlpha = false := by
  -- That is half of what makes a separator.
  simp only [isSeparator, Bool.and_eq_true, Bool.not_eq_true'] at separator
  exact separator.2

/-- The table that is used leaves separators as they are. -/
theorem keepsSeparators_table : KeepsSeparators table := by
  intro c separator
  -- Neither of the two special letters is an ASCII character.
  have other := isAlpha_of_isSeparator separator
  simp only [isSeparator, Bool.and_eq_true, decide_eq_true_eq] at separator
  have dotless : c ≠ '\u0131' := by
    rintro rfl
    exact absurd separator.1 (by decide)
  have long : c ≠ '\u017f' := by
    rintro rfl
    exact absurd separator.1 (by decide)
  -- Of the others, only small letters are changed.
  have small : c.isLower = false := (Bool.or_eq_false_iff.1 other).2
  have same : c.toUpper = c := by
    refine dif_neg fun between => ?_
    have lower : c.isLower = true :=
      Bool.and_eq_true_iff.2 ⟨decide_eq_true between.1, decide_eq_true between.2⟩
    simp [small] at lower
  rw [table, upper, if_neg dotless, if_neg long, same]

section

variable {uppercase : Char → List Char} (keeps : KeepsSeparators uppercase)

include keeps

/-- A separator is lost, and leaves a gap. -/
theorem letters_separator {c : Char} (separator : isSeparator c = true) (gap : Bool)
    (rest : List Char) :
    letters (single uppercase) gap (c :: rest) = letters (single uppercase) true rest := by
  -- It is no letter, not even after its change of case.
  have same : single uppercase c = c := by rw [single, keeps c separator]
  simp only [letters, same, ite_self, isAlpha_of_isSeparator separator, Bool.false_eq_true,
    if_false]

/-- Behind a gap, separators change nothing. -/
theorem letters_separators {text : List Char} (separators : ∀ c ∈ text, isSeparator c = true)
    (rest : List Char) :
    letters (single uppercase) true (text ++ rest) = letters (single uppercase) true rest := by
  -- Each of them leaves the gap that is there already.
  induction text with
  | nil => rfl
  | cons c text ih =>
    obtain ⟨first, others⟩ := List.forall_mem_cons.1 separators
    rw [List.cons_append, letters_separator keeps first, ih others]

/-- A run leaves a gap, whatever it is made of and whatever was in front of it. -/
theorem letters_run {run : List Char} (separates : Run run) (gap : Bool) (rest : List Char) :
    letters (single uppercase) gap (run ++ rest) = letters (single uppercase) true rest := by
  -- The first separator opens a gap, and the others leave it open.
  obtain ⟨c, others, rfl⟩ := List.exists_cons_of_ne_nil separates.some
  obtain ⟨first, behind⟩ := List.forall_mem_cons.1 separates.separators
  rw [List.cons_append, letters_separator keeps first, letters_separators keeps behind]

/-- A text is left in front of a run as it would be left alone. -/
theorem letters_append_run (gap : Bool) (front : List Char) {run : List Char}
    (separates : Run run) (rest : List Char) :
    letters (single uppercase) gap (front ++ run ++ rest) =
      letters (single uppercase) gap front ++ letters (single uppercase) true rest := by
  -- The pass brings nothing to the run but the news of a gap, which the run leaves anyway.
  rw [List.append_assoc]
  induction front generalizing gap with
  | nil => exact letters_run keeps separates gap rest
  | cons c front ih =>
    rw [List.cons_append, letters, letters]
    generalize (if gap then single uppercase c else c) = letter
    cases alpha : letter.isAlpha with
    | true => simp only [if_true, ih, List.cons_append]
    | false => simp only [Bool.false_eq_true, if_false, ih]

/-- Texts that differ in runs only have the same letters. -/
theorem letters_eq_of_differInRuns {one other : List Char} (differ : DifferInRuns one other)
    (gap : Bool) :
    letters (single uppercase) gap one = letters (single uppercase) gap other := by
  induction differ generalizing gap with
  | @ends first second one other =>
    -- Nothing is kept of separators.
    have none : ∀ {text : List Char}, (∀ c ∈ text, isSeparator c = true) →
        letters (single uppercase) gap text = [] := by
      intro text separators
      cases text with
      | nil => rfl
      | cons c rest =>
        obtain ⟨first, behind⟩ := List.forall_mem_cons.1 separators
        have left := letters_separators keeps behind []
        rw [List.append_nil] at left
        rw [letters_separator keeps first, left, letters]
    rw [none one, none other]
  | run one other tail ih => rw [letters_run keeps one, letters_run keeps other, ih]
  | keep c tail ih =>
    rw [letters, letters]
    -- The same character is kept in both, and is raised in both or in neither.
    generalize (if gap then single uppercase c else c) = letter
    simp only [ih]

/-- The identifier of a route with a run in it is put together from what is around the run. -/
theorem ofRouteBy_append_run (front : String) {run : String} (separates : Run run.toList)
    (rest : String) :
    ofRouteBy uppercase (front ++ run ++ rest) =
      ofRouteBy uppercase front ++
        String.ofList (letters (single uppercase) true rest.toList) := by
  -- The texts are cut at the run, and the part behind it starts in a gap.
  rw [ofRouteBy, ofRouteBy, String.toList_append, String.toList_append,
    letters_append_run keeps false _ separates, String.ofList_append]

end

/-- Routes that differ in runs only have the same identifier. -/
theorem ofRoute_eq_of_differInRuns {one other : String}
    (differ : DifferInRuns one.toList other.toList) : ofRoute one = ofRoute other := by
  -- The table in use keeps separators apart from letters.
  rw [ofRoute, ofRoute, ofRouteBy, ofRouteBy,
    letters_eq_of_differInRuns keepsSeparators_table differ]

end Navigation.Identifier
