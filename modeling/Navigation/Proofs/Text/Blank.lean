import Mathlib.Data.List.DropRight
import Navigation.Text.Blank

/-! Texts without the blanks at their ends: what is left, and which texts stay as they are. -/

namespace Navigation

variable {text : List Char} {c : Char}

/-- What is left at the front of a text without its leading blanks is no blank. -/
theorem not_isBlank_of_head?_trimLeft (first : (trimLeft text).head? = some c) :
    isBlank c = false := by
  -- Blanks are dropped until the first character that is none.
  have ends := List.head?_dropWhile_not isBlank text
  rw [trimLeft] at first
  rw [first] at ends
  simpa using ends

/-- What is left at the end of a text without its trailing blanks is no blank. -/
theorem not_isBlank_of_getLast?_trimRight (last : (trimRight text).getLast? = some c) :
    isBlank c = false := by
  -- Read backwards, the last character is the first one.
  rw [trimRight, List.getLast?_reverse] at last
  exact not_isBlank_of_head?_trimLeft last

/-- A text that does not start with a blank has no leading blanks to lose. -/
theorem trimLeft_eq_self (first : ∀ c ∈ text.head?, isBlank c = false) : trimLeft text = text := by
  -- Dropping stops at the first character.
  cases text with
  | nil => rfl
  | cons c rest => exact List.dropWhile_cons_of_neg (by simp [first c rfl])

/-- A text that does not end with a blank has no trailing blanks to lose. -/
theorem trimRight_eq_self (last : ∀ c ∈ text.getLast?, isBlank c = false) :
    trimRight text = text := by
  -- The last character is the first one of the reversed text.
  rw [trimRight, trimLeft_eq_self (by rwa [List.head?_reverse]), List.reverse_reverse]

/-- What is left of a text once the blanks at the end of a longer one are gone. -/
def trimBefore (front back : List Char) : List Char :=
  if trimRight back = [] then trimRight front else front

/-- Blanks are trailing as far as nothing else stands behind them. -/
theorem trimRight_append (front back : List Char) :
    trimRight (front ++ back) = trimBefore front back ++ trimRight back := by
  -- Read backwards, blanks are dropped from the second text, and if it is used up from the first.
  rw [trimBefore, trimRight, trimRight, trimLeft, List.reverse_append, List.dropWhile_append]
  by_cases blank : back.reverse.dropWhile isBlank = []
  · simp [trimRight, trimLeft, blank]
  · simp [trimLeft, blank]

/-- Blanks are all lost from the end of a text. -/
theorem trimRight_eq_nil (blank : ∀ c ∈ text, isBlank c = true) : trimRight text = [] :=
  List.rdropWhile_eq_nil_iff.2 blank

/-- A text is what is left without its trailing blanks, and these blanks behind it. -/
theorem exists_eq_trimRight_append (text : List Char) :
    ∃ tail, text = trimRight text ++ tail ∧ ∀ c ∈ tail, isBlank c = true :=
  -- What is taken from the end are the blanks there.
  ⟨List.rtakeWhile isBlank text, (List.rdropWhile_append_rtakeWhile ..).symm,
    fun _ => List.mem_rtakeWhile_imp⟩

/-- Without its trailing blanks, a text starts as it did. -/
theorem isPrefix_trimRight (text : List Char) : trimRight text <+: text :=
  List.rdropWhile_prefix isBlank text

/-- Without the blanks at its end, a text has no characters that it did not have before. -/
theorem mem_of_mem_trimRight (member : c ∈ trimRight text) : c ∈ text :=
  (isPrefix_trimRight text).mem member

/-- Without the blanks at either end, a text has no characters that it did not have before. -/
theorem mem_of_mem_trim (member : c ∈ trim text) : c ∈ text :=
  (List.dropWhile_sublist isBlank).mem (mem_of_mem_trimRight member)

/-- What is left at the front of a text without the blanks at either end is no blank. -/
theorem not_isBlank_of_head?_trim (first : (trim text).head? = some c) : isBlank c = false := by
  -- Trailing blanks are lost behind the first character.
  obtain ⟨behind, whole⟩ := isPrefix_trimRight (trimLeft text)
  have kept : (trimLeft text).head? = some c := by
    rw [trim] at first
    rw [← whole, List.head?_append, first, Option.some_or]
  exact not_isBlank_of_head?_trimLeft kept

/-- A text stays as it is exactly if no blank stands at either end of it. -/
theorem trim_eq_self_iff :
    trim text = text ↔
      (∀ c ∈ text.head?, isBlank c = false) ∧ ∀ c ∈ text.getLast?, isBlank c = false := by
  constructor
  · -- A text that trimming leaves as it is has the ends that trimming leaves.
    intro same
    refine ⟨fun c first => ?_, fun c last => ?_⟩
    · rw [← same] at first
      exact not_isBlank_of_head?_trim first
    · rw [← same] at last
      exact not_isBlank_of_getLast?_trimRight last
  · -- Without a blank at either end, there is nothing to lose.
    rintro ⟨first, last⟩
    rw [trim, trimLeft_eq_self first, trimRight_eq_self last]

/-- Blanks that were lost cannot be lost again. -/
theorem trim_trim (text : List Char) : trim (trim text) = trim text :=
  -- Neither end of a trimmed text is blank.
  trim_eq_self_iff.2
    ⟨fun _ => not_isBlank_of_head?_trim, fun _ => not_isBlank_of_getLast?_trimRight⟩

/-- A text is lost as a whole only if it has nothing but blanks. -/
theorem isBlank_of_trim_eq_nil (nothing : trim text = []) : ∀ c ∈ text, isBlank c = true := by
  -- What is left without leading blanks starts with no blank, so nothing can be left.
  have left : trimLeft text = [] := by
    have blank : ∀ c ∈ trimLeft text, isBlank c = true := List.rdropWhile_eq_nil_iff.1 nothing
    cases found : trimLeft text with
    | nil => rfl
    | cons c rest =>
      have start : (trimLeft text).head? = some c := by rw [found, List.head?_cons]
      have other : isBlank c = false := not_isBlank_of_head?_trimLeft start
      rw [blank c (by simp [found])] at other
      exact absurd other (by decide)
  exact List.dropWhile_eq_nil_iff.1 left

end Navigation
