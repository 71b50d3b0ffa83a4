import Navigation.Proofs.Template.Pass
import Navigation.Proofs.Token.Free

/-! Templates without brackets of their own: filling them makes no token. -/

namespace Navigation

open Token (Rewritten Sealed)

/-- Indenting a value is writing it anew, since a line feed separates. -/
theorem rewritten_indented {indent : List Char} (absent : '[' ∉ indent) (value : List Char) :
    Rewritten value (indented indent value) := by
  -- Only a line feed gives way to anything, and the indent follows it.
  induction value with
  | nil => exact .nil
  | cons c rest ih =>
    rw [indented]
    split
    · next feed =>
      rw [feed.1]
      exact .swap '\n' (by decide) absent ih
    · exact .keep c ih

/-- Indenting a value adds the characters of the indent at most. -/
theorem mem_of_mem_indented {indent value : List Char} {c : Char}
    (member : c ∈ indented indent value) : c ∈ indent ∨ c ∈ value := by
  induction value with
  | nil => simp [indented] at member
  | cons d rest ih =>
    -- Whatever is written stood in the value, or in the indent behind a line feed.
    have cases : c = d ∨ c ∈ indent ∨ c ∈ indented indent rest := by
      rw [indented] at member
      split at member
      · simpa using member
      · rcases List.mem_cons.1 member with same | behind
        · exact .inl same
        · exact .inr (.inr behind)
    rcases cases with same | inside | behind
    · exact .inr (by simp [same])
    · exact .inl inside
    · exact (ih behind).imp_right (List.mem_cons_of_mem d)

namespace Values

/-- Whether a property holds of the text put in for every placeholder. -/
def All (P : List Char → Prop) (values : Values) : Prop :=
  ∀ placeholder, P (values.textOf placeholder)

variable {P : List Char → Prop} {values : Values}

/-- Without values nothing is put in anywhere. -/
theorem all_empty (nothing : P []) : All P empty :=
  fun _ => nothing

/-- A value set for one placeholder leaves the texts of the others alone. -/
theorem All.set (all : All P values) {value : String} (holds : P value.toList)
    (placeholder : Placeholder) : All P (values.set placeholder value) := by
  intro other
  -- The new value is put in for its own placeholder only.
  by_cases same : other = placeholder
  · simpa [textOf, Values.set, same] using holds
  · simpa [textOf, Values.set, same] using all other

/-- Keeping a section changes no value. -/
theorem All.keep (all : All P values) (kept : Section) : All P (values.keep kept) :=
  all

end Values

/-- Whether a piece of a text brings no opening bracket into what is written. -/
def Piece.Plain : Piece → Prop
  | .char c => c ≠ '['
  | .mark _ indent => '[' ∉ indent

namespace Template

/-- Whether every opening bracket of a text is the first character of a known token. -/
def OnlyMarkers (text : List Char) : Prop :=
  ∀ before after, text = before ++ '[' :: after → ∃ marker : Marker, marker.text <+: '[' :: after

/-- The end of a text has no brackets that the text does not have. -/
theorem OnlyMarkers.of_append {before text : List Char} (known : OnlyMarkers (before ++ text)) :
    OnlyMarkers text := by
  -- A token of the second part is one of the whole text.
  intro inner after same
  exact known (before ++ inner) after (by rw [same, List.append_assoc])

/-- A text without characters has no brackets. -/
theorem onlyMarkers_nil : OnlyMarkers [] := by
  -- There is no place for a token.
  intro before after same
  simp at same

/-- The brackets of a text are the one at its front, if there is one there, and those behind. -/
theorem onlyMarkers_cons_iff {c : Char} {rest : List Char} :
    OnlyMarkers (c :: rest) ↔
      (c = '[' → (Marker.opening? (c :: rest)).isSome = true) ∧ OnlyMarkers rest := by
  constructor
  · intro known
    have behind : OnlyMarkers ([c] ++ rest) := known
    -- A bracket at the front has nothing before it.
    refine ⟨?_, behind.of_append⟩
    rintro rfl
    obtain ⟨marker, after, same⟩ := known [] rest rfl
    rw [Marker.opening?_eq_some_iff.2 same.symm]
    rfl
  · rintro ⟨here, behind⟩ before after same
    cases before with
    | nil =>
      -- The bracket is the one at the front, so a token was read there.
      obtain ⟨rfl, rfl⟩ := List.cons.inj same
      obtain ⟨⟨marker, left⟩, opened⟩ := Option.isSome_iff_exists.1 (here rfl)
      exact ⟨marker, left, (Marker.eq_of_opening? opened).symm⟩
    | cons d before =>
      -- The bracket is one of those behind.
      exact behind before after (List.cons.inj same).2

instance decidableOnlyMarkers : (text : List Char) → Decidable (OnlyMarkers text)
  | [] => isTrue onlyMarkers_nil
  | c :: rest =>
    have := decidableOnlyMarkers rest
    decidable_of_iff _ (@onlyMarkers_cons_iff c rest).symm

/-- An indent is made of spaces and tabs. -/
theorem bracket_not_mem_indent (line : List Char) : '[' ∉ line.takeWhile Piece.isIndent := by
  -- Spaces and tabs are no brackets.
  intro member
  have blank := List.all_eq_true.1 List.all_takeWhile _ member
  simp [Piece.isIndent] at blank

/-- Cutting a text at its known tokens leaves no bracket, if there are no others. -/
theorem plain_of_mem_cut {line text : List Char} (known : OnlyMarkers text) :
    ∀ piece ∈ Piece.cut line text, piece.Plain := by
  -- A bracket that is read as a character would be one that starts no known token.
  fun_induction Piece.cut line text with
  | case1 line => simp
  | case2 line c rest marker after opened ih =>
    -- The text goes on behind the marker, and so do its brackets.
    rw [Marker.eq_of_opening? opened] at known
    intro piece member
    rcases List.mem_cons.1 member with rfl | member
    · exact bracket_not_mem_indent line
    · exact ih known.of_append piece member
  | case3 line c rest absent ih =>
    obtain ⟨here, behind⟩ := onlyMarkers_cons_iff.1 known
    intro piece member
    rcases List.mem_cons.1 member with rfl | member
    · intro bracket
      simpa [absent] using here bracket
    · exact ih behind piece member

/-- What plain pieces contribute is put together from characters and indented values. -/
theorem fill_induction {P : List Char → Prop} {values : Values} (nothing : P [])
    (append : ∀ {first second}, P first → P second → P (first ++ second))
    (char : ∀ c, c ≠ '[' → P [c])
    (value : ∀ placeholder indent, '[' ∉ indent →
      P (indented indent (values.textOf placeholder)))
    {pieces : List Piece} (plain : ∀ piece ∈ pieces, piece.Plain) (writes : Bool) :
    P (fill values writes pieces) := by
  -- Each piece is written in front of the others, or left out.
  induction pieces generalizing writes with
  | nil => exact nothing
  | cons piece rest ih =>
    obtain ⟨here, behind⟩ := List.forall_mem_cons.1 plain
    cases piece with
    | char c =>
      rw [fill]
      refine append ?_ (ih behind writes)
      cases writes
      · exact nothing
      · exact char c here
    | mark marker indent =>
      rw [fill]
      refine append ?_ (ih behind _)
      cases writes
      · exact nothing
      · -- The marks of a section leave nothing behind.
        cases marker with
        | slot placeholder =>
          have written := value placeholder indent here
          rwa [indented_eq_hang] at written
        | opens opened => exact nothing
        | closes closed => exact nothing

variable {source : String} {template : Template} {values : Values}

/-- A template without brackets of its own is sealed once it is filled with sealed values. -/
theorem sealed_render (read : parse source = .ok template) (known : OnlyMarkers source.toList)
    (all : values.All Sealed) : Sealed (template.render values).toList := by
  rw [render_eq_fill read, String.toList_ofList]
  refine fill_induction Token.sealed_nil Token.Sealed.append ?_ ?_ (plain_of_mem_cut known) true
  · intro c other
    exact Token.sealed_of_not_mem (by simpa using Ne.symm other)
  · -- A value stays sealed as it is indented.
    intro placeholder indent absent
    exact (rewritten_indented absent _).sealed (all placeholder)

/-- A template without brackets of its own has none once it is filled with values without any. -/
theorem bracket_not_mem_render (read : parse source = .ok template)
    (known : OnlyMarkers source.toList) (all : values.All ('[' ∉ ·)) :
    '[' ∉ (template.render values).toList := by
  rw [render_eq_fill read, String.toList_ofList]
  have append : ∀ {first second : List Char}, '[' ∉ first → '[' ∉ second →
      '[' ∉ first ++ second := by
    intro first second one two
    simp [one, two]
  refine fill_induction (P := ('[' ∉ ·)) (by simp) append ?_ ?_ (plain_of_mem_cut known) true
  · intro c other
    simpa using Ne.symm other
  · -- A bracket would come from the indent or from the value.
    intro placeholder indent absent member
    rcases mem_of_mem_indented member with inside | inside
    · exact absent inside
    · exact all placeholder inside

end Template

end Navigation
