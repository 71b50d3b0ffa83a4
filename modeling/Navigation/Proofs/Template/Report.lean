import Navigation.Proofs.Template.Places
import Navigation.Proofs.Template.Slots

/-! What a template reports of itself: it agrees with its text, and with how it is filled. -/

namespace Navigation

/-- Every placeholder is listed. -/
theorem Placeholder.mem_all (placeholder : Placeholder) : placeholder ∈ all := by
  -- One case for each placeholder.
  cases placeholder <;> decide

/-- A slot is written as the token of its placeholder. -/
theorem Marker.text_slot (placeholder : Placeholder) :
    (Marker.slot placeholder).text = placeholder.token.toList := by
  -- Both are the placeholder's name in brackets.
  rw [Placeholder.token, Token.write, String.toList_ofList]
  rfl

/-- A character put in front of items is none of the items that are looked for. -/
theorem Item.any_consChar {wanted : Item → Bool} (other : ∀ text, wanted (.literal text) = false)
    (c : Char) (items : List Item) : (consChar c items).any wanted = items.any wanted := by
  -- The character changes or adds a literal, and no literal is wanted.
  unfold consChar
  split <;> simp [other]

/-- A character put in front of segments is none of the segments that are looked for. -/
theorem Segment.any_consChar {wanted : Segment → Bool}
    (other : ∀ text, wanted (.item (.literal text)) = false) (c : Char) (segments : List Segment) :
    (consChar c segments).any wanted = segments.any wanted := by
  -- Again only a literal is changed or added.
  unfold consChar
  split <;> simp [other]

namespace Template

/-- Matching the sections of a text keeps its slots, whether they are in a section or not. -/
theorem uses_matched (placeholder : Placeholder) (pieces : List Piece) :
    (∀ segments, outside pieces = .ok segments →
      (segments.any (Segment.uses placeholder) = true ↔
        .slot placeholder ∈ Piece.markers pieces)) ∧
    (∀ name body after, inside name pieces = .ok (body, after) →
      ((body.any (Item.uses placeholder) || after.any (Segment.uses placeholder)) = true ↔
        .slot placeholder ∈ Piece.markers pieces)) := by
  -- A slot is counted where it stands, and a section where it opens.
  apply matched_induction
  case nil => simp
  case char =>
    intro c rest segments _ ih
    rw [Segment.any_consChar fun _ => rfl, ih, Piece.markers_char]
  case slot =>
    intro found indent rest segments ih
    simp [Segment.uses, Item.uses, ih, @eq_comm _ placeholder found]
  case opens =>
    intro name indent rest body after ih
    simp [Segment.uses, ← ih]
  -- Inside of a section, the body and what comes behind it are counted together.
  case charInside =>
    intro name c rest body after _ ih
    rw [Item.any_consChar fun _ => rfl, ih, Piece.markers_char]
  case slotInside =>
    intro name found indent rest body after ih
    simp [Item.uses, ← ih, @eq_comm _ placeholder found, or_assoc]
  case closes =>
    intro name indent rest after ih
    simpa using ih

/-- Matching the sections of a text keeps each section that it opens. -/
theorem isBlock_matched (name : Section) (pieces : List Piece) :
    (∀ segments, outside pieces = .ok segments →
      (segments.any (Segment.isBlock name) = true ↔ .opens name ∈ Piece.markers pieces)) ∧
    (∀ open_ body after, inside open_ pieces = .ok (body, after) →
      (after.any (Segment.isBlock name) = true ↔ .opens name ∈ Piece.markers pieces)) := by
  -- Inside of a section there is none, so all that is opened there comes behind it.
  apply matched_induction
  case nil => simp
  case char =>
    intro c rest segments _ ih
    rw [Segment.any_consChar fun _ => rfl, ih, Piece.markers_char]
  case slot =>
    intro placeholder indent rest segments ih
    simp [Segment.isBlock, ih]
  -- There is only one section, and this is its first start.
  case opens =>
    intro opened indent rest body after ih
    simp [Segment.isBlock]
  case charInside =>
    intro _ c rest body after _ ih
    rw [ih, Piece.markers_char]
  case slotInside =>
    intro _ placeholder indent rest body after ih
    simp [ih]
  case closes =>
    intro _ indent rest after ih
    simp [ih]

variable {source : String} {template : Template}

/-- The placeholders of a template are those it uses. -/
theorem mem_placeholders_iff {placeholder : Placeholder} :
    placeholder ∈ template.placeholders ↔ template.uses placeholder = true := by
  -- The report goes through all placeholders and keeps those that are used.
  simp [placeholders, Placeholder.mem_all]

/-- A template uses the placeholders whose slots its text is cut at. -/
theorem uses_iff_mem_markers (read : parse source = .ok template) {placeholder : Placeholder} :
    template.uses placeholder = true ↔
      .slot placeholder ∈ Piece.markers (Piece.cut [] source.toList) :=
  (uses_matched placeholder _).1 _ (matched_of_parse read)

/-- A template uses the placeholders whose tokens stand in its text. -/
theorem uses_iff_infix (read : parse source = .ok template) {placeholder : Placeholder} :
    template.uses placeholder = true ↔ placeholder.token.toList <:+: source.toList := by
  -- Used placeholders are markers among the pieces, and those stand in the text.
  rw [uses_iff_mem_markers read, Piece.mem_markers_cut_iff, Marker.text_slot]

/-- A template has the sections whose start stands in its text. -/
theorem hasSection_iff_infix (read : parse source = .ok template) {name : Section} :
    template.hasSection name = true ↔
      (Token.write name.startName).toList <:+: source.toList := by
  -- A section is cut at its start, so its mark is among those of the text.
  rw [hasSection, (isBlock_matched name _).1 _ (matched_of_parse read),
    Piece.mem_markers_cut_iff, Token.write, String.toList_ofList]
  rfl

/-- A requirement fails with the first placeholder that is not used, and in no other way. -/
theorem require_eq_error_iff {needed : List Placeholder} {fault : TemplateError} :
    template.require needed = .error fault ↔
      ∃ earlier missing later, needed = earlier ++ missing :: later ∧
        (∀ placeholder ∈ earlier, template.uses placeholder = true) ∧
        template.uses missing = false ∧ fault = .missingPlaceholder missing := by
  -- The search is for a placeholder that is not used.
  rw [require]
  constructor
  · intro failed
    split at failed
    · next missing found =>
      -- What is found first has nothing of its kind before it.
      obtain ⟨absent, earlier, later, rfl, before⟩ := List.find?_eq_some_iff_append.1 found
      simp only [Except.error.injEq] at failed
      exact ⟨earlier, missing, later, rfl, by simpa using before, by simpa using absent,
        failed.symm⟩
    · simp at failed
  · rintro ⟨earlier, missing, later, rfl, before, absent, rfl⟩
    have found : (earlier ++ missing :: later).find? (fun placeholder =>
        !template.uses placeholder) = some missing :=
      List.find?_eq_some_iff_append.2 ⟨by simp [absent], earlier, later, rfl, by simpa using before⟩
    rw [found]

/-- Items are filled alike by texts that agree where there are slots. -/
theorem flatMap_render_congr {first second : Values} {items : List Item}
    (agree : ∀ placeholder, items.any (Item.uses placeholder) = true →
      first.textOf placeholder = second.textOf placeholder) :
    items.flatMap (Item.render first) = items.flatMap (Item.render second) := by
  -- Literals are written as they stand, and each slot is one of the items.
  refine List.flatMap_congr fun part member => ?_
  cases part with
  | literal text => rfl
  | slot placeholder indent =>
    have used : items.any (Item.uses placeholder) = true :=
      List.any_eq_true.2 ⟨_, member, by simp [Item.uses]⟩
    rw [Item.render, Item.render, agree placeholder used]

/-- Filling sees the texts of those placeholders only that the template uses. -/
theorem render_congr {first second : Values} (kept : ∀ name, first.keeps name = second.keeps name)
    (agree : ∀ placeholder, template.uses placeholder = true →
      first.textOf placeholder = second.textOf placeholder) :
    template.render first = template.render second := by
  have filled : template.segments.flatMap (Segment.render first) =
      template.segments.flatMap (Segment.render second) := by
    refine List.flatMap_congr fun segment member => ?_
    -- Whatever a segment uses, the template uses.
    have own : ∀ placeholder, segment.uses placeholder = true →
        first.textOf placeholder = second.textOf placeholder :=
      fun placeholder used => agree placeholder (List.any_eq_true.2 ⟨segment, member, used⟩)
    cases segment with
    | item part =>
      have alone : [part].flatMap (Item.render first) = [part].flatMap (Item.render second) :=
        flatMap_render_congr (by simpa [Segment.uses] using own)
      simpa [Segment.render] using alone
    | block name body => rw [Segment.render, Segment.render, kept name, flatMap_render_congr own]
  rw [render, render, filled]

/--
What a template reports of itself can be read off its text, and is all that filling depends on.

A placeholder counts wherever its token stands, in a section or outside, and whatever is around it.
-/
theorem reports_of_parse (read : parse source = .ok template) :
    (∀ placeholder, placeholder ∈ template.placeholders ↔
        placeholder.token.toList <:+: source.toList) ∧
      (∀ name, template.hasSection name = true ↔
        (Token.write name.startName).toList <:+: source.toList) ∧
      (∀ needed, template.require needed = .ok () ↔
        ∀ placeholder ∈ needed, placeholder.token.toList <:+: source.toList) ∧
      (∀ needed fault, template.require needed = .error fault ↔
        ∃ earlier missing later, needed = earlier ++ missing :: later ∧
          (∀ placeholder ∈ earlier, placeholder.token.toList <:+: source.toList) ∧
          ¬ missing.token.toList <:+: source.toList ∧ fault = .missingPlaceholder missing) ∧
      ∀ first second : Values, (∀ name, first.keeps name = second.keeps name) →
        (∀ placeholder ∈ template.placeholders,
          first.textOf placeholder = second.textOf placeholder) →
        template.render first = template.render second := by
  -- Each report asks for uses of a placeholder or a section, and use is to stand in the text.
  refine ⟨?placeholders, ?sections, ?met, ?unmet, ?filled⟩
  case placeholders =>
    intro placeholder
    rw [mem_placeholders_iff, uses_iff_infix read]
  case sections =>
    exact fun name => hasSection_iff_infix read
  case met =>
    intro needed
    simp only [require_eq_ok_iff, uses_iff_infix read]
  case unmet =>
    intro needed fault
    simp only [require_eq_error_iff, uses_iff_infix read, ← Bool.not_eq_true]
  case filled =>
    intro first second kept agree
    -- Filling looks at the placeholders in use only, and those are the reported ones.
    exact render_congr kept fun placeholder used => agree placeholder (mem_placeholders_iff.2 used)

/-- Slots in brackets and in a section, and the beginning of a third one. -/
theorem reports_of_parse_of_bracketed_slots :
    let source :=
      "[[IMPORTS_BLOCK]]\n\t[SCAFFOLD_START][INNER_NAV_HOST][SCAFFOLD_END][EXPERIMENTAL_API"
    ∃ template, parse source = .ok template ∧
      .imports ∈ template.placeholders ∧ .innerNavHost ∈ template.placeholders ∧
      template.hasSection .scaffold = true ∧
      template.require [.innerNavHost, .imports] = .ok () ∧
      template.require [.imports, .experimentalApi, .defaultNavController] =
        .error (.missingPlaceholder .experimentalApi) ∧
      template.render (Values.empty.set .innerNavHost "") =
        template.render (Values.empty.set .experimentalApi "x") := by
  intro source
  -- Both slots stand in brackets of their own, and the last token is cut off.
  have read : parse source = .ok
      ⟨[.item (.literal ['[']), .item (.slot .imports []), .item (.literal "]\n\t".toList),
        .block .scaffold [.slot .innerNavHost ['\t']],
        .item (.literal "[EXPERIMENTAL_API".toList)]⟩ := by
    decide +kernel
  obtain ⟨placeholders, sections, met, unmet, filled⟩ := reports_of_parse read
  refine ⟨_, read, ?_, ?_, ?_, ?_, ?_, ?_⟩
  · exact (placeholders .imports).2 (by decide +kernel)
  · exact (placeholders .innerNavHost).2 (by decide +kernel)
  · exact (sections .scaffold).2 (by decide +kernel)
  · exact (met _).2 (by decide +kernel)
  · refine (unmet _ _).2 ⟨[.imports], .experimentalApi, [.defaultNavController], rfl, ?_, ?_, rfl⟩
    · decide +kernel
    · decide +kernel
  · exact filled _ _ (fun _ => rfl) (by decide +kernel)

end Template

end Navigation
