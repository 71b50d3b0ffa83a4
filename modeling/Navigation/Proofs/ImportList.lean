import Navigation.ImportList
import Navigation.Proofs.NameSet
import Navigation.Proofs.Text.Blank
import Navigation.Proofs.Text.Cut

/-! Import lists are read back from the import block they are written as. -/

namespace Navigation.ImportList

/-- A name that a line of an import list can ask for. -/
structure IsEntry (name : String) : Prop where
  named : name ≠ ""
  trimmed : trim name.toList = name.toList
  oneLine : '\n' ∉ name.toList

instance (name : String) : Decidable (IsEntry name) :=
  decidable_of_iff (name ≠ "" ∧ trim name.toList = name.toList ∧ '\n' ∉ name.toList)
    ⟨fun ⟨named, trimmed, oneLine⟩ => ⟨named, trimmed, oneLine⟩,
      fun fit => ⟨fit.named, fit.trimmed, fit.oneLine⟩⟩

/-- Without the keyword, a line has no characters that it did not have before. -/
theorem mem_of_mem_dropKeyword {line : List Char} {c : Char} (member : c ∈ dropKeyword line) :
    c ∈ line := by
  -- The line is shortened at its front, or left as it is.
  rw [dropKeyword] at member
  split at member
  · exact List.mem_of_mem_drop member
  · exact member

/-- A text without blanks at its ends keeps something behind the keyword, if it starts with that. -/
theorem trim_dropKeyword_ne_nil {line : List Char} (trimmed : trim line = line)
    (filled : line ≠ []) : trim (dropKeyword line) ≠ [] := by
  obtain ⟨-, last⟩ := trim_eq_self_iff.1 trimmed
  intro nothing
  -- A line that starts with the keyword cannot end with it, because the keyword ends in a blank.
  rw [dropKeyword] at nothing
  split at nothing
  · next starts =>
    obtain ⟨rest, rfl⟩ := List.isPrefixOf_iff_prefix.1 starts
    rw [List.drop_left] at nothing
    have blank := isBlank_of_trim_eq_nil nothing
    cases ends : rest.getLast? with
    | none =>
      rw [List.getLast?_eq_none_iff.1 ends] at last
      exact absurd (last ' ' (by decide)) (by decide)
    | some c =>
      have plain : isBlank c = false := last c (by simp [ends])
      rw [blank c (List.mem_of_getLast? ends)] at plain
      exact absurd plain (by decide)
  · exact filled (trimmed.symm.trans nothing)

/-- What a line asks for is a name, whatever the line is. -/
theorem isEntry_of_entry? {line : List Char} {name : String} (oneLine : '\n' ∉ line)
    (asked : entry? line = some name) : IsEntry name := by
  unfold entry? at asked
  -- A line asks for a name if it is neither blank nor a comment.
  cases left : trim line with
  | nil => simp [left] at asked
  | cons c rest =>
    simp only [left] at asked
    split at asked
    · exact absurd asked nofun
    · obtain rfl := Option.some.inj asked
      have trimmed : trim (c :: rest) = c :: rest := left ▸ trim_trim line
      have kept := trim_dropKeyword_ne_nil trimmed (by simp)
      refine ⟨fun nothing => kept (by simpa using nothing), ?_, ?_⟩
      · rw [String.toList_ofList, trim_trim]
      · -- All characters of the name are characters of the line.
        rw [String.toList_ofList]
        intro broken
        have inside : '\n' ∈ c :: rest := mem_of_mem_dropKeyword (mem_of_mem_trim broken)
        rw [← left] at inside
        exact oneLine (mem_of_mem_trim inside)

/-- Every name that a text lists is one that a line can ask for. -/
theorem isEntry_of_mem_read {source name : String} (listed : name ∈ read source) :
    IsEntry name := by
  -- Each line is a part of the text between line feeds.
  obtain ⟨line, part, asked⟩ := List.mem_filterMap.1 listed
  exact isEntry_of_entry? (not_mem_of_mem_cutAt part) asked

/-- A statement asks for the name that it imports. -/
theorem entry?_statement {name : String} (fit : IsEntry name) :
    entry? (statement name).toList = some name := by
  have written : (statement name).toList = keyword ++ name.toList := String.toList_append
  obtain ⟨-, last⟩ := trim_eq_self_iff.1 fit.trimmed
  -- The statement starts with a letter and ends as the name does, so there is nothing to trim.
  have trimmed : trim (keyword ++ name.toList) = keyword ++ name.toList := by
    refine trim_eq_self_iff.2 ⟨fun c first => ?_, fun c ends => ?_⟩
    · rw [Option.mem_def, show (keyword ++ name.toList).head? = some 'i' from rfl] at first
      obtain rfl := Option.some.inj first
      decide
    · have filled : name.toList ≠ [] := by simpa using fit.named
      rw [Option.mem_def, List.getLast?_append_of_ne_nil _ filled] at ends
      exact last c ends
  -- The keyword is dropped once, and what is behind it is the name.
  have dropped : dropKeyword (keyword ++ name.toList) = name.toList := by
    rw [dropKeyword, if_pos (List.isPrefixOf_iff_prefix.2 (List.prefix_append _ _)),
      List.drop_left]
  rw [written, entry?, trimmed]
  show (if 'i' = '#' then none
    else some (String.ofList (trim (dropKeyword (keyword ++ name.toList))))) = some name
  rw [if_neg (by decide), dropped, fit.trimmed, String.ofList_toList]

/-- Names are read back from their statements, one a line. -/
theorem read_statements {names : List String} (fit : ∀ name ∈ names, IsEntry name) :
    read ("\n".intercalate (names.map statement)) = names := by
  have lines : ("\n".intercalate (names.map statement)).toList =
      ['\n'].intercalate (names.map fun name => (statement name).toList) := by
    rw [String.toList_intercalate, List.map_map]
    rfl
  rw [read, lines]
  by_cases none : names = []
  · -- The block without statements is one empty line.
    subst none
    rfl
  · have unbroken : ∀ line ∈ names.map fun name => (statement name).toList, '\n' ∉ line := by
      simp only [List.forall_mem_map]
      intro name listed
      have written : (statement name).toList = keyword ++ name.toList := String.toList_append
      rw [written, List.mem_append, not_or]
      exact ⟨by decide, (fit name listed).oneLine⟩
    rw [cutAt_intercalate (by simpa using none) unbroken, List.filterMap_map]
    -- Line by line, the statement asks for its name.
    have asked : ∀ name ∈ names, entry? (statement name).toList = some name :=
      fun name listed => entry?_statement (fit name listed)
    exact (List.filterMap_congr asked).trans List.filterMap_some

/--
The names a text lists are read back from the import block, followed by those that it lacked.

No name is taken for a comment or loses the keyword twice, even one that starts with either.
-/
theorem read_render_read (source : String) :
    (∀ name ∈ read source, IsEntry name) ∧
    ∀ additional : NameSet, (∀ name ∈ additional, IsEntry name) →
      let base := read source
      let added := additional.names.filter fun name => !base.contains name
      read (render base additional) = base ++ added ∧ added.Pairwise (· < ·) ∧
        ∀ name ∈ additional, (read (render base additional)).count name =
          if name ∈ base then base.count name else 1 := by
  refine ⟨fun name => isEntry_of_mem_read, fun additional fit => ?_⟩
  intro base added
  have again : read (render base additional) = base ++ added := by
    refine read_statements fun name listed => ?_
    rcases List.mem_append.1 listed with listed | listed
    · exact isEntry_of_mem_read listed
    · exact fit name (List.mem_of_mem_filter listed)
  refine ⟨again, additional.ascending.filter _, fun name member => ?_⟩
  -- A name is counted in the list of the text and among those that were added.
  rw [again, List.count_append]
  by_cases known : name ∈ base
  · -- A name that is listed already is not added.
    have absent : name ∉ added := fun listed => by simpa [known] using (List.mem_filter.1 listed).2
    rw [if_pos known, List.count_eq_zero_of_not_mem absent, Nat.add_zero]
  · have listed : name ∈ added := List.mem_filter.2 ⟨member, by simpa using known⟩
    have once : added.Nodup := (additional.ascending.filter _).imp String.ne_of_lt
    rw [if_neg known, List.count_eq_zero_of_not_mem known, List.count_eq_one_of_mem once listed]

/-- Names that look like a comment or a statement, listed twice or to be added. -/
theorem read_render_read_of_disguised_names :
    let source := "# nav\r\nimport import a\n\u2003import  #b\u00a0\n\nimport import a\nimport "
    let additional := NameSet.ofList ["import a", "#c", "a", "import d"]
    (∀ name ∈ additional, IsEntry name) ∧
      read source = ["import a", "#b", "import a", "import"] ∧
      read (render (read source) additional) =
        ["import a", "#b", "import a", "import", "#c", "a", "import d"] ∧
      (read (render (read source) additional)).count "import a" = 2 := by
  intro source additional
  have fit : ∀ name ∈ additional, IsEntry name := by
    show ∀ name ∈ additional.names, IsEntry name
    decide +kernel
  have listed : read source = ["import a", "#b", "import a", "import"] := by decide +kernel
  obtain ⟨-, again⟩ := read_render_read source
  -- Both general statements apply, and the rest is computed.
  obtain ⟨whole, -, counts⟩ := again additional fit
  refine ⟨fit, listed, whole.trans (by decide +kernel), ?_⟩
  rw [counts "import a" (NameSet.mem_iff.2 (by decide +kernel)), listed]
  decide

end Navigation.ImportList
