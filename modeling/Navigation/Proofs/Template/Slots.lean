import Navigation.Proofs.Template.Written

/-! Where a template has slots, and what becomes of them when it is filled. -/

namespace Navigation.Template

variable {template : Template} {placeholder : Placeholder}

/-- A placeholder is used exactly if some item is a slot for it. -/
theorem uses_iff_holds :
    template.uses placeholder = true ↔ ∃ indent, template.Holds (.slot placeholder indent) := by
  -- An item uses the placeholder exactly if it is one of its slots.
  have own : ∀ part : Item, part.uses placeholder = true ↔
      ∃ indent, part = .slot placeholder indent := by
    rintro (text | ⟨found, indent⟩) <;> simp [Item.uses]
  rw [uses, List.any_eq_true]
  constructor
  · rintro ⟨part | ⟨name, body⟩, listed, used⟩
    · obtain ⟨indent, rfl⟩ := (own part).1 used
      exact ⟨indent, .inl listed⟩
    · obtain ⟨part, inside, used⟩ := List.any_eq_true.1 used
      obtain ⟨indent, rfl⟩ := (own part).1 used
      exact ⟨indent, .inr ⟨name, body, listed, inside⟩⟩
  · rintro ⟨indent, listed | ⟨name, body, listed, inside⟩⟩
    · exact ⟨_, listed, (own _).2 ⟨indent, rfl⟩⟩
    · exact ⟨_, listed, List.any_eq_true.2 ⟨_, inside, (own _).2 ⟨indent, rfl⟩⟩⟩

/-- A requirement is met exactly if each of its placeholders is used. -/
theorem require_eq_ok_iff {needed : List Placeholder} :
    template.require needed = .ok () ↔ ∀ placeholder ∈ needed, template.uses placeholder = true := by
  rw [require]
  split
  · next missing found =>
    -- The placeholder that was found missing is one of those needed.
    have absent := List.find?_some found
    have listed := List.mem_of_find?_eq_some found
    refine iff_of_false (by simp) fun all => ?_
    simp [all missing listed] at absent
  · next complete =>
    refine iff_of_true rfl fun placeholder listed => ?_
    simpa using List.find?_eq_none.1 complete placeholder listed

/-- Whether an item is filled: it stands outside of all sections, or in one that is kept. -/
def Fills (template : Template) (keeps : Section → Bool) (part : Item) : Prop :=
  .item part ∈ template.segments ∨
    ∃ name body, .block name body ∈ template.segments ∧ keeps name = true ∧ part ∈ body

/-- Where every section is kept, every item is filled. -/
theorem Holds.fills {part : Item} (holds : template.Holds part) {keeps : Section → Bool}
    (all : ∀ name, keeps name = true) : template.Fills keeps part := by
  -- A part is outside of all sections, or in one that is kept like all others.
  rcases holds with outside | ⟨name, body, listed, inside⟩
  · exact .inl outside
  · exact .inr ⟨name, body, listed, all name, inside⟩

/-- An item that is filled stands in the template. -/
theorem Fills.holds {part : Item} {keeps : Section → Bool} (fills : template.Fills keeps part) :
    template.Holds part := by
  -- Where a part is found does not depend on its section being kept.
  rcases fills with outside | ⟨name, body, listed, -, inside⟩
  · exact .inl outside
  · exact .inr ⟨name, body, listed, inside⟩

/-- What is written for one element of a list is part of what is written for the list. -/
theorem infix_flatMap {α : Type} {write : α → List Char} {parts : List α} {part : α}
    (member : part ∈ parts) : write part <:+: parts.flatMap write := by
  -- What is written of the parts before it and behind it stands around it.
  obtain ⟨earlier, later, rfl⟩ := List.append_of_mem member
  exact ⟨earlier.flatMap write, later.flatMap write, by simp⟩

/-- The filled text has all that a filled item contributes, in one piece. -/
theorem infix_render {part : Item} {values : Values} (fills : template.Fills values.keeps part) :
    part.render values <:+: (template.render values).toList := by
  rw [render, String.toList_ofList]
  rcases fills with outside | ⟨name, body, listed, kept, inside⟩
  · have whole : (Segment.item part).render values <:+:
        template.segments.flatMap (Segment.render values) := infix_flatMap outside
    exact whole
  · -- The section is part of the text, and the item is part of the section.
    have whole : (Segment.block name body).render values <:+:
        template.segments.flatMap (Segment.render values) := infix_flatMap listed
    have own : (Segment.block name body).render values = body.flatMap (Item.render values) := by
      simp [Segment.render, kept]
    rw [own] at whole
    exact (infix_flatMap inside).trans whole

/-- The items that are filled, one behind the other. -/
def items (keeps : Section → Bool) (template : Template) : List Item :=
  template.segments.flatMap fun
    | .item part => [part]
    | .block name body => if keeps name then body else []

/-- A filled template is what its filled items contribute, one behind the other. -/
theorem render_eq_items (template : Template) (values : Values) :
    (template.render values).toList =
      (template.items values.keeps).flatMap (Item.render values) := by
  rw [render, String.toList_ofList, items, List.flatMap_assoc]
  congr 1
  funext segment
  -- A section contributes what its items do, or nothing at all.
  cases segment with
  | item part => simp [Segment.render]
  | block name body => cases kept : values.keeps name <;> simp [Segment.render, kept]

/-- A slot of a template that was read has a token in the source, and the indent of its line. -/
theorem Holds.exists_token {source : String} (read : parse source = .ok template)
    {indent : List Char} (holds : template.Holds (.slot placeholder indent)) :
    ∃ before after, source.toList = before ++ (Marker.slot placeholder).text ++ after ∧
      indent = lineIndent before := by
  obtain ⟨canonical, -⟩ := canonical_of_parse read
  have written := canonical.written
  rw [← written, write, String.toList_ofList]
  rcases holds with outside | ⟨name, body, listed, inside⟩
  · obtain ⟨earlier, later, split⟩ := List.append_of_mem outside
    refine ⟨_, later.flatMap Segment.write, ?_, canonical.indent earlier _ indent later split⟩
    simp [split, Segment.write, Item.write]
  · -- The section is found first, and then the slot in it.
    obtain ⟨first, second, rfl⟩ := List.append_of_mem inside
    obtain ⟨earlier, later, split⟩ := List.append_of_mem listed
    refine ⟨_, second.flatMap Item.write ++ (Marker.closes name).text ++
      later.flatMap Segment.write, ?_,
      canonical.indent_inside earlier name first _ indent second later split⟩
    simp [split, Segment.write, Item.write]

/-- Whether a value stands in a filled text as a whole, put in for a placeholder.

Its lines hang from the indent of a line on which the source has the placeholder's token. -/
def Carries (source : String) (placeholder : Placeholder) (value filled : String) : Prop :=
  ∃ before after, source.toList = before ++ (Marker.slot placeholder).text ++ after ∧
    hang (lineIndent before) value.toList <:+: filled.toList

/-- Hanging a value from an indent leaves nothing of it only if there was nothing. -/
theorem hang_ne_nil {value : List Char} (filled : value ≠ []) (indent : List Char) :
    hang indent value ≠ [] := by
  rw [← indented_eq_hang]
  -- The first character of the value comes first.
  cases value with
  | nil => exact absurd rfl filled
  | cons c rest =>
    rw [indented]
    split <;> simp

/-- A value is carried into the filled text by each slot that is filled. -/
theorem carries_render {source : String} (read : parse source = .ok template)
    {indent : List Char} {values : Values} {value : String}
    (fills : template.Fills values.keeps (.slot placeholder indent))
    (given : values.value? placeholder = some value) :
    Carries source placeholder value (template.render values) := by
  obtain ⟨before, after, token, rfl⟩ := fills.holds.exists_token read
  refine ⟨before, after, token, ?_⟩
  -- The slot contributes the value, indented as it is.
  have written := infix_render fills
  rwa [Item.render, Values.textOf, given, indented_eq_hang] at written

end Navigation.Template
