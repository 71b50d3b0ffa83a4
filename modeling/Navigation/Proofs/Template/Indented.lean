import Navigation.Proofs.Template.Pass
import Navigation.Proofs.Text.Blank

/-! Indented values line by line: what an indent leaves alone, and indents inside of indents. -/

namespace Navigation

/-- Whether a text can be the indent of a line: it has spaces and tabs only. -/
def IsIndent (text : List Char) : Prop :=
  ∀ c ∈ text, Piece.isIndent c = true

instance (text : List Char) : Decidable (IsIndent text) :=
  List.decidableBAll _ text

section

variable {indent inner outer : List Char}

/-- An indent stays on its line. -/
theorem IsIndent.feed_not_mem (blank : IsIndent indent) : '\n' ∉ indent :=
  fun member => absurd (blank _ member) (by decide)

/-- Two indents, one behind the other, are an indent. -/
theorem IsIndent.append (first : IsIndent outer) (second : IsIndent inner) :
    IsIndent (outer ++ inner) :=
  List.forall_mem_append.2 ⟨first, second⟩

/-- The characters of an indent are blanks. -/
theorem IsIndent.isBlank (blank : IsIndent indent) : ∀ c ∈ indent, isBlank c = true := by
  -- A space and a tab are two of the blanks.
  intro c member
  have cases : c = ' ' ∨ c = '\t' := by simpa [Piece.isIndent] using blank c member
  rcases cases with rfl | rfl <;> rfl

/-- A line at an indent; an empty line stays empty. -/
def hangLine (indent line : List Char) : List Char :=
  if line = [] then [] else indent ++ line

/-- Lines of which all behind the first are at an indent. -/
def hangLines (indent : List Char) : List (List Char) → List (List Char)
  | [] => []
  | first :: rest => first :: rest.map (hangLine indent)

/-- At an indent, exactly the empty lines are empty. -/
theorem hangLine_eq_nil_iff {line : List Char} : hangLine indent line = [] ↔ line = [] := by
  -- The indent is put in front of lines that have characters.
  unfold hangLine
  split
  · next empty => simp [empty]
  · next filled => simp [filled]

/-- A line can be told from what it is at an indent. -/
theorem hangLine_injective (indent : List Char) : Function.Injective (hangLine indent) := by
  intro first second same
  by_cases empty : first = []
  · -- A line that has become empty was empty.
    have nothing : hangLine indent second = [] := by rw [← same, hangLine_eq_nil_iff, empty]
    rw [empty, hangLine_eq_nil_iff.1 nothing]
  · have filled : second ≠ [] := by
      intro nothing
      rw [nothing, hangLine_eq_nil_iff.2 rfl] at same
      exact empty (hangLine_eq_nil_iff.1 same)
    rw [hangLine, if_neg empty, hangLine, if_neg filled] at same
    exact List.append_cancel_left same

/-- A line at one indent, put at another, is at both, the outer one first. -/
theorem hangLine_hangLine (outer inner line : List Char) :
    hangLine outer (hangLine inner line) = hangLine (outer ++ inner) line := by
  -- A line with characters has characters at the inner indent as well.
  by_cases empty : line = []
  · simp [hangLine, empty]
  · have filled : hangLine inner line ≠ [] := mt hangLine_eq_nil_iff.1 empty
    rw [hangLine, if_neg filled, hangLine, if_neg empty, hangLine, if_neg empty, List.append_assoc]

/-- There are as many lines at an indent as there were before. -/
theorem length_hangLines (indent : List Char) (lines : List (List Char)) :
    (hangLines indent lines).length = lines.length := by
  -- Each line stays one line.
  cases lines <;> simp [hangLines]

/-- The first line does not move. -/
theorem head?_hangLines (indent : List Char) (lines : List (List Char)) :
    (hangLines indent lines).head? = lines.head? := by
  -- The first line stands where the slot is.
  cases lines <;> rfl

/-- The same lines are empty as were before. -/
theorem getElem?_hangLines_eq_nil_iff {lines : List (List Char)} {place : Nat} :
    (hangLines indent lines)[place]? = some [] ↔ lines[place]? = some [] := by
  -- The first line is as it was, and the others stay empty if they are.
  cases lines with
  | nil => simp [hangLines]
  | cons first rest =>
    cases place with
    | zero => simp [hangLines]
    | succ place => simp [hangLines, hangLine_eq_nil_iff]

/-- Lines can be told from what they are at an indent. -/
theorem hangLines_injective (indent : List Char) : Function.Injective (hangLines indent) := by
  -- The first line is left alone, and each other one can be told from what it becomes.
  intro first second same
  cases first with
  | nil =>
    cases second with
    | nil => rfl
    | cons line rest => exact absurd same nofun
  | cons line rest =>
    cases second with
    | nil => exact absurd same nofun
    | cons line' rest' =>
      simp only [hangLines, List.cons.injEq] at same
      rw [same.1, (hangLine_injective indent).list_map same.2]

/-- Lines at one indent, put at another, are at both. -/
theorem hangLines_hangLines (outer inner : List Char) (lines : List (List Char)) :
    hangLines outer (hangLines inner lines) = hangLines (outer ++ inner) lines := by
  cases lines with
  | nil => rfl
  | cons first rest =>
    -- Behind the first line, each line is moved twice.
    simp only [hangLines, List.map_map]
    congr 2
    funext line
    exact hangLine_hangLine outer inner line

/-- Lines that are written each behind a line feed are written with line feeds in between. -/
theorem append_flatMap_feed (first : List Char) (rest : List (List Char)) :
    (first ++ rest.flatMap fun line => '\n' :: line) = ['\n'].intercalate (first :: rest) := by
  -- The line feed in front of the next line is the one behind the first.
  induction rest generalizing first with
  | nil => simp
  | cons line rest ih =>
    rw [List.intercalate_cons_cons, ← ih]
    simp

/-- The lines of an indented value are its lines at the indent. -/
theorem cutAt_indented (blank : IsIndent indent) (value : List Char) :
    cutAt '\n' (indented indent value) = hangLines indent (cutAt '\n' value) := by
  obtain ⟨first, rest, cut⟩ := List.exists_cons_of_ne_nil (cutAt_ne_nil '\n' value)
  -- The text is put together from its lines, and so it is cut into them again.
  have written : indented indent value =
      ['\n'].intercalate (first :: rest.map (hangLine indent)) := by
    rw [indented_eq_hang, Template.hang, cut, ← append_flatMap_feed, List.flatMap_map]
    rfl
  -- Neither the lines of the text nor the indent hold a line feed.
  have plain : ∀ line ∈ first :: rest, '\n' ∉ line :=
    fun line listed => not_mem_of_mem_cutAt (cut ▸ listed)
  have absent : ∀ line ∈ first :: rest.map (hangLine indent), '\n' ∉ line := by
    rw [List.forall_mem_cons] at plain ⊢
    refine ⟨plain.1, ?_⟩
    rw [List.forall_mem_map]
    intro line listed
    unfold hangLine
    split
    · exact List.not_mem_nil
    · rw [List.mem_append, not_or]
      exact ⟨blank.feed_not_mem, plain.2 line listed⟩
  rw [written, cutAt_intercalate (by simp) absent, cut, hangLines]

/-- A value can be told from what it is at an indent. -/
theorem indented_injective (blank : IsIndent indent) : Function.Injective (indented indent) := by
  intro first second same
  -- The texts have the same lines, and so the values had.
  have lines := congrArg (cutAt '\n') same
  rw [cutAt_indented blank, cutAt_indented blank] at lines
  exact cutAt_injective '\n' (hangLines_injective indent lines)

/-- A value at one indent, put at another, is at both. -/
theorem indented_indented (outside : IsIndent outer) (inside : IsIndent inner)
    (value : List Char) :
    indented outer (indented inner value) = indented (outer ++ inner) value := by
  -- The texts are equal because their lines are.
  apply cutAt_injective '\n'
  rw [cutAt_indented outside, cutAt_indented inside, cutAt_indented (outside.append inside),
    hangLines_hangLines]

end

/-- What an indent puts between two texts: itself, where the second one starts a line of its own. -/
def seam (indent before behind : List Char) : List Char :=
  if before.getLast? = some '\n' ∧ opensEmptyLine behind = false then indent else []

/-- Indenting keeps every text that has characters. -/
theorem indented_eq_nil_iff {indent value : List Char} :
    indented indent value = [] ↔ value = [] := by
  -- No character is lost.
  cases value with
  | nil => simp [indented]
  | cons c rest =>
    rw [indented]
    split <;> simp

/-- An indented value ends as the value does. -/
theorem getLast?_indented (indent value : List Char) :
    (indented indent value).getLast? = value.getLast? := by
  induction value with
  | nil => rfl
  | cons c rest ih =>
    -- Behind the first character, what is written ends as the rest does.
    by_cases last : rest = []
    · simp [last, indented, opensEmptyLine]
    · have filled : indented indent rest ≠ [] := mt indented_eq_nil_iff.1 last
      have ends : (c :: rest).getLast? = rest.getLast? :=
        List.getLast?_append_of_ne_nil [c] last
      rw [indented, ends, ← ih]
      split
      · rw [← List.cons_append, List.getLast?_append_of_ne_nil _ filled]
      · rw [← List.singleton_append, List.getLast?_append_of_ne_nil _ filled]

/-- A text opens with an empty line exactly if it does as an indented value. -/
theorem opensEmptyLine_indented_append (indent value behind : List Char) :
    opensEmptyLine (indented indent value ++ behind) = opensEmptyLine (value ++ behind) := by
  cases value with
  | nil => rfl
  | cons c rest =>
    -- Either text starts with the value's first character.
    rw [indented]
    split <;> rfl

/-- Two texts are indented one after the other, with the indent between them where it is due. -/
theorem indented_append (indent front back : List Char) :
    indented indent (front ++ back) =
      indented indent front ++ (seam indent front back ++ indented indent back) := by
  induction front with
  | nil => simp [indented, seam]
  | cons c rest ih =>
    by_cases last : rest = []
    · -- The one character is the one in front of the other text.
      have nothing : opensEmptyLine [] = true := rfl
      by_cases due : c = '\n' ∧ opensEmptyLine back = false <;>
        simp [last, indented, seam, due, nothing]
    · -- The line behind the first character starts in the first text.
      have ends : (c :: rest).getLast? = rest.getLast? :=
        List.getLast?_append_of_ne_nil [c] last
      have opens : opensEmptyLine (rest ++ back) = opensEmptyLine rest := by
        obtain ⟨d, more, rfl⟩ := List.exists_cons_of_ne_nil last
        rfl
      have between : seam indent (c :: rest) back = seam indent rest back := by
        rw [seam, seam, ends]
      rw [List.cons_append, indented, indented, opens, ih, between]
      split <;> simp

end Navigation
