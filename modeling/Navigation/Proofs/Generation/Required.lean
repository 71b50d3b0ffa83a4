import Navigation.Generation
import Navigation.Proofs.Assembly.Tree
import Navigation.Proofs.Capabilities
import Navigation.Proofs.Template.Slots
import Navigation.Proofs.TemplateSet

/-! What an aggregate must have: its graphs and its imports, unless a section takes them away. -/

namespace Navigation

/-- The import block of a run, which the libraries may add to. -/
def importBlock (capabilities : Capabilities) (templates : TemplateSet) : String :=
  ImportList.render (templates.baseImports capabilities.animation)
    capabilities.experimentalApi.imports

/-- The declaration of the graphs of a run. -/
def graphsDeclaration (tree : GraphTree) (names : OutputNames) : String :=
  (Declaration.fragment names.graphType names.graphsObject tree).text

/-- The values an aggregate is filled with, the declaration and the import block set last. -/
def aggregateValues (tree : GraphTree) (capabilities : Capabilities) (templates : TemplateSet)
    (names : OutputNames) : Values :=
  ((capabilities.apply templates.plainHost templates.animatedHost Values.empty).1.set
    .navGraphsDeclaration (graphsDeclaration tree names)).set
      .imports (importBlock capabilities templates)

/-- The aggregate is its template filled with these values. -/
theorem aggregateText_eq (tree : GraphTree) (capabilities : Capabilities)
    (templates : TemplateSet) (names : OutputNames) :
    aggregateText tree capabilities templates names =
      templates.aggregate.render (aggregateValues tree capabilities templates names) :=
  rfl

/-- Sections of the aggregate are kept exactly if the material library is there. -/
theorem keeps_aggregateValues (tree : GraphTree) (capabilities : Capabilities)
    (templates : TemplateSet) (names : OutputNames) (part : Section) :
    (aggregateValues tree capabilities templates names).keeps part = capabilities.material := by
  -- The values come from the capabilities, which start with no section kept.
  have decided := capabilities.keeps_apply templates.plainHost templates.animatedHost
    Values.empty part
  rw [show Values.empty.keeps part = false from rfl, Bool.or_false] at decided
  exact decided

/-- A required placeholder is filled, if sections are kept or one of its slots is in none. -/
theorem exists_fills_required {sources : TemplateSources} {templates : TemplateSet}
    (read : TemplateSet.parse sources = .ok templates) {placeholder : Placeholder}
    (needed : placeholder ∈ TemplateSet.required) {keeps : Section → Bool}
    (shown : (∀ part, keeps part = true) ∨
      ∃ indent, .item (.slot placeholder indent) ∈ templates.aggregate.segments) :
    ∃ indent, templates.aggregate.Fills keeps (.slot placeholder indent) := by
  obtain ⟨-, complete, -⟩ := TemplateSet.parse_eq_ok_iff.1 read
  rcases shown with all | ⟨indent, outside⟩
  · -- The check found a slot somewhere, and no section is left out.
    have used := Template.require_eq_ok_iff.1 complete placeholder needed
    obtain ⟨indent, holds⟩ := Template.uses_iff_holds.1 used
    exact ⟨indent, holds.fills all⟩
  · exact ⟨indent, .inl outside⟩

/--
A generated aggregate has its graphs and its imports, each in one piece.

A template is accepted with either of them in a section only. They are lost then where the section
is left out, so without the material library each needs a slot that is in no section.
-/
theorem carries_required {sources : TemplateSources} {templates : TemplateSet}
    {destinations : List Destination} {tree : GraphTree}
    (read : TemplateSet.parse sources = .ok templates)
    (assembled : assemble destinations = .ok tree) (capabilities : Capabilities)
    (names : OutputNames) :
    ∃ generated, generate destinations capabilities templates names = .ok generated ∧
      (capabilities.material = true ∨ (∃ indent,
          .item (.slot .navGraphsDeclaration indent) ∈ templates.aggregate.segments) →
        Template.Carries sources.aggregate .navGraphsDeclaration (graphsDeclaration tree names)
          generated.aggregate.contents) ∧
      (capabilities.material = true ∨ (∃ indent,
          .item (.slot .imports indent) ∈ templates.aggregate.segments) →
        Template.Carries sources.aggregate .imports (importBlock capabilities templates)
          generated.aggregate.contents) := by
  obtain ⟨readAggregate, -⟩ := TemplateSet.parse_eq_ok_iff.1 read
  have keeps := keeps_aggregateValues tree capabilities templates names
  -- Each of the two has a slot that is filled, and the slot carries its value.
  have carried : ∀ placeholder ∈ TemplateSet.required, ∀ value,
      (aggregateValues tree capabilities templates names).value? placeholder = some value →
      (capabilities.material = true ∨
        ∃ indent, .item (.slot placeholder indent) ∈ templates.aggregate.segments) →
      Template.Carries sources.aggregate placeholder value
        (aggregateText tree capabilities templates names) := by
    intro placeholder needed value given shown
    have shown : (∀ part, (aggregateValues tree capabilities templates names).keeps part = true) ∨
        ∃ indent, .item (.slot placeholder indent) ∈ templates.aggregate.segments :=
      shown.imp_left fun material part => (keeps part).trans material
    obtain ⟨indent, fills⟩ := exists_fills_required read needed shown
    rw [aggregateText_eq]
    exact Template.carries_render readAggregate fills given
  refine ⟨_, Outcome.map_eq_ok_iff.2 ⟨tree, assembled, rfl⟩, ?graphs, ?imports⟩
  case graphs => exact carried .navGraphsDeclaration (by decide) _ rfl
  case imports => exact carried .imports (by decide) _ rfl

/-- Both required placeholders are in a section, which the material library keeps. -/
theorem carries_required_of_kept_section :
    let destinations : List Destination := [{ simpleName := "Home", route := "home", isStart := true }]
    let sources : TemplateSources :=
      { aggregate := " [SCAFFOLD_START][NAV_GRAPHS_DECLARATION]\n[IMPORTS_BLOCK][SCAFFOLD_END]"
        imports := ["a.B"] }
    ∃ templates tree generated, TemplateSet.parse sources = .ok templates ∧
      assemble destinations = .ok tree ∧
      generate destinations ⟨false, true⟩ templates {} = .ok generated ∧
      Template.Carries sources.aggregate .navGraphsDeclaration (graphsDeclaration tree {})
        generated.aggregate.contents ∧
      Template.Carries sources.aggregate .imports (importBlock ⟨false, true⟩ templates)
        generated.aggregate.contents := by
  -- Both slots stand in the section, and the material style keeps it.
  intro destinations sources
  have read : TemplateSet.parse sources = .ok
      ⟨⟨[.item (.literal [' ']), .block .scaffold [.slot .navGraphsDeclaration [' '],
          .literal ['\n'], .slot .imports []]]⟩, "", ⟨[]⟩, ⟨[]⟩, ["a.B"], []⟩ := by
    decide +kernel
  have assembled : assemble destinations = .ok (graphTreeOf destinations) := by decide +kernel
  obtain ⟨generated, made, graphs, imports⟩ := carries_required read assembled ⟨false, true⟩ {}
  exact ⟨_, _, generated, read, assembled, made, graphs (.inl rfl), imports (.inl rfl)⟩

/-- Without that library the section is left out, and neither is anywhere in the aggregate. -/
theorem not_carried_in_section_left_out :
    let destinations : List Destination := [{ simpleName := "Home", route := "home", isStart := true }]
    let sources : TemplateSources :=
      { aggregate := "[SCAFFOLD_START][NAV_GRAPHS_DECLARATION]\n[IMPORTS_BLOCK][SCAFFOLD_END]"
        imports := ["a.B"] }
    ∃ templates tree generated, TemplateSet.parse sources = .ok templates ∧
      assemble destinations = .ok tree ∧
      generate destinations {} templates {} = .ok generated ∧
      (∀ indent, ¬ Template.hang indent (graphsDeclaration tree {}).toList <:+:
        generated.aggregate.contents.toList) ∧
      ∀ indent, ¬ Template.hang indent (importBlock {} templates).toList <:+:
        generated.aggregate.contents.toList := by
  intro destinations sources
  have read : TemplateSet.parse sources = .ok
      ⟨⟨[.block .scaffold [.slot .navGraphsDeclaration [], .literal ['\n'], .slot .imports []]]⟩,
        "", ⟨[]⟩, ⟨[]⟩, ["a.B"], []⟩ := by
    decide +kernel
  have assembled : assemble destinations = .ok (graphTreeOf destinations) := by decide +kernel
  refine ⟨_, _, _, read, assembled, Outcome.map_eq_ok_iff.2 ⟨_, assembled, rfl⟩, ?graphs, ?imports⟩
  all_goals
    -- Nothing is written at all, and either text has characters.
    intro indent inside
    have nothing := List.infix_nil.1 inside
  case graphs => exact Template.hang_ne_nil (by decide +kernel) indent nothing
  case imports => exact Template.hang_ne_nil (by decide +kernel) indent nothing

end Navigation
