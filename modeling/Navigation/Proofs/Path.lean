import Navigation.Path
import Navigation.Proofs.Text.Cut

/-! The names a path leads through: joining paths puts their names one behind the other. -/

namespace Navigation.Path

/-- The names in a text between slashes. -/
def namesIn (chars : List Char) : List String :=
  ((cutAt '/' chars).filter (!·.isEmpty)).map String.ofList

/-- A slash divides the names in front of it from those behind. -/
theorem namesIn_append_slash (front back : List Char) :
    namesIn (front ++ '/' :: back) = namesIn front ++ namesIn back := by
  -- No part reaches across a slash.
  simp only [namesIn, cutAt_append_mark, List.filter_append, List.map_append]

/-- A text behind another leads on from where the other led. -/
theorem namesIn_joinChars {base other : List Char} (relative : isRooted other = false) :
    namesIn (joinChars base other) = namesIn base ++ namesIn other := by
  -- Whether a slash is added or was there already, it stands between the two.
  rw [joinChars, relative, if_neg (by simp)]
  by_cases empty : base = []
  · subst empty
    rfl
  · by_cases ends : base.getLast? = some '/'
    · obtain ⟨front, rfl⟩ := List.getLast?_eq_some_iff.1 ends
      have nothing : namesIn [] = [] := rfl
      have slash : (front ++ ['/']) ++ other = front ++ '/' :: other := List.append_cons .. |>.symm
      simp only [List.getLast?_concat, beq_self_eq_true, Bool.or_true, if_true, slash,
        namesIn_append_slash, nothing, List.append_nil]
    · simp [empty, ends, namesIn_append_slash]

/-- A relative path behind another leads on from where the other led. -/
theorem names_join {base other : Path} (relative : other.isAbsolute = false) :
    (base.join other).names = base.names ++ other.names := by
  -- A relative path is put behind the base, with a slash in between where one is needed.
  have chars : (base.join other).chars = joinChars base.chars other.chars := by
    simp [join, Path.chars]
  rw [names, chars]
  exact namesIn_joinChars relative

/-- The slash that is missing between a text and what comes behind it. -/
def gap (base : List Char) : List Char :=
  if base.isEmpty || base.getLast? == some '/' then [] else ['/']

/-- A relative text stands behind another, with the slash that is missing in between. -/
theorem joinChars_of_relative {base other : List Char} (relative : isRooted other = false) :
    joinChars base other = base ++ (gap base ++ other) := by
  -- The gap is the slash, or nothing where the base ends in one or is empty.
  rw [joinChars, relative, if_neg (by simp), gap]
  split <;> simp

/-- Which slash is missing behind a text can be seen from the end of it. -/
theorem gap_append (front : List Char) {back : List Char} (filled : back ≠ []) :
    gap (front ++ back) = gap back := by
  -- Only the last character counts, and that one is of the second part.
  have last : (front ++ back).getLast? = back.getLast? := by
    rw [List.getLast?_append, List.getLast?_eq_some_getLast filled, Option.some_or]
  simp [gap, filled, last]

/-- No slash is missing where the missing one was put. -/
theorem gap_append_gap (base : List Char) : gap (base ++ gap base) = [] := by
  by_cases closed : gap base = []
  · rw [closed, List.append_nil, closed]
  · -- What was put there is a slash.
    have slash : gap base = ['/'] := by
      unfold gap at closed ⊢
      split
      · next ended => exact absurd (if_pos ended) closed
      · rfl
    rw [slash, gap_append base (by simp)]
    rfl

/-- What comes behind a rooted text does not change that it is rooted. -/
theorem isRooted_append {base : List Char} (filled : base ≠ []) (back : List Char) :
    isRooted (base ++ back) = isRooted base := by
  -- Only the first character counts, and that one is of the base.
  obtain ⟨c, rest, rfl⟩ := List.exists_cons_of_ne_nil filled
  rfl

/-- A text put behind others can be put behind the last of them first. -/
theorem joinChars_assoc (base middle other : List Char) :
    joinChars (joinChars base middle) other = joinChars base (joinChars middle other) := by
  -- A rooted text replaces all that is in front of it.
  by_cases rooted : isRooted other = true
  · simp only [joinChars, rooted, if_true]
  rw [Bool.not_eq_true] at rooted
  by_cases empty : middle = []
  · -- An empty text in the middle leaves at most a slash, which is missing anyway.
    have nothing : isRooted [] = false := rfl
    have alone : joinChars [] other = other := joinChars_of_relative rooted
    rw [empty, alone, joinChars_of_relative nothing, joinChars_of_relative rooted,
      joinChars_of_relative rooted, List.append_nil, gap_append_gap, List.nil_append,
      List.append_assoc]
  · have behind : joinChars middle other = middle ++ (gap middle ++ other) :=
      joinChars_of_relative rooted
    by_cases inner : isRooted middle = true
    · -- A rooted text in the middle replaces what is in front of it, on both sides.
      have replaced : joinChars base middle = middle := if_pos inner
      have rooted' : isRooted (middle ++ (gap middle ++ other)) = true :=
        (isRooted_append empty _).trans inner
      rw [replaced, behind]
      exact (if_pos rooted').symm
    · -- Otherwise the three texts stand one behind the other.
      rw [Bool.not_eq_true] at inner
      have inner' : isRooted (middle ++ (gap middle ++ other)) = false :=
        (isRooted_append empty _).trans inner
      rw [behind, joinChars_of_relative inner, joinChars_of_relative inner',
        joinChars_of_relative rooted, ← List.append_assoc base, gap_append _ empty]
      simp only [List.append_assoc]

/-- A path behind others can be seen from the last of them first. -/
theorem join_assoc (base middle other : Path) :
    (base.join middle).join other = base.join (middle.join other) := by
  -- Paths are joined as texts, for which it does not matter.
  simp only [join, Path.chars, String.toList_ofList, joinChars_assoc]

/-- An absolute path stays as it is, wherever it is seen from. -/
theorem join_of_isAbsolute {base other : Path} (rooted : other.isAbsolute = true) :
    base.join other = other := by
  -- A rooted path replaces the base.
  have replaced : joinChars base.chars other.chars = other.chars := if_pos rooted
  rw [join, replaced, chars, String.ofList_toList]

/-- Seen from an absolute path, every path is absolute. -/
theorem isAbsolute_join {base : Path} (rooted : base.isAbsolute = true) (other : Path) :
    (base.join other).isAbsolute = true := by
  by_cases absolute : other.isAbsolute = true
  · rwa [join_of_isAbsolute absolute]
  · -- The other path is put behind the first, which starts with its slash already.
    rw [Bool.not_eq_true] at absolute
    have filled : base.chars ≠ [] := by
      intro empty
      rw [isAbsolute, empty] at rooted
      exact absurd rooted (by decide)
    have placed : joinChars base.chars other.chars = base.chars ++ (gap base.chars ++ other.chars) :=
      joinChars_of_relative absolute
    rw [isAbsolute, join, chars, String.toList_ofList, placed, isRooted_append filled]
    exact rooted

/-- Whether a text is a name: it is not empty, and no slash divides it. -/
def IsName (name : String) : Prop :=
  name ≠ "" ∧ '/' ∉ name.toList

/-- A name has characters, and none of them is a slash. -/
theorem IsName.chars_ne_nil {name : String} (plain : IsName name) : name.toList ≠ [] := by
  -- A name has at least one character.
  simpa using plain.1

/-- A name does not start with a slash, so it is seen from the path in front of it. -/
theorem IsName.isRooted_eq_false {name : String} (plain : IsName name) :
    isRooted name.toList = false := by
  -- Its first character is no slash, as none of them is.
  obtain ⟨c, rest, text⟩ := List.exists_cons_of_ne_nil plain.chars_ne_nil
  have whole := plain.2
  rw [text] at whole
  simpa [isRooted, text] using Ne.symm (List.ne_of_not_mem_cons whole)

/-- A name leads to one place below the path it stands behind. -/
theorem names_join_name {base : Path} {name : String} (plain : IsName name) :
    (base.join ⟨name⟩).names = base.names ++ [name] := by
  -- A name without slashes is a relative path with itself as its only part.
  have single : names ⟨name⟩ = [name] := by
    simp [names, Path.chars, cutAt_of_not_mem plain.2, plain.1]
  rw [names_join plain.isRooted_eq_false, single]

end Navigation.Path
