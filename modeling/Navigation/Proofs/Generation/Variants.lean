import Navigation.Proofs.Generation.Required
import Navigation.Proofs.Template.LeftOut

/-! Variants that are switched off: nothing of their templates gets into what is generated. -/

namespace Navigation

open Outcome (error? error?_eq_none_iff)

/-- The source of the inner host that fits the animation library. -/
def TemplateSources.chosenHost (sources : TemplateSources) (animation : Bool) : String :=
  if animation then sources.animatedHost else sources.plainHost

/-- The import list that fits the animation library. -/
def TemplateSources.chosenImports (sources : TemplateSources) (animation : Bool) : List String :=
  if animation then sources.animatedImports else sources.imports

/-- Libraries see the templates of the inner host only through the one that they choose. -/
theorem Capabilities.apply_congr {capabilities : Capabilities} {plain animated : Template}
    {otherPlain otherAnimated : Template}
    (host : capabilities.host plain animated = capabilities.host otherPlain otherAnimated)
    (values : Values) : capabilities.apply plain animated values =
      capabilities.apply otherPlain otherAnimated values := by
  -- The templates are only used for the host.
  simp only [apply, host]

/-- Whether two sets of templates are the same as far as a run with given libraries can tell. -/
structure SameUse (capabilities : Capabilities) (first second : TemplateSet) : Prop where
  /-- The same host is chosen. -/
  host : capabilities.host first.plainHost first.animatedHost =
    capabilities.host second.plainHost second.animatedHost
  /-- The same import list is chosen. -/
  imports : first.baseImports capabilities.animation = second.baseImports capabilities.animation
  /-- The sealed destination is the same text. -/
  sealedDestination : first.sealedDestination = second.sealedDestination
  /-- The aggregates are filled alike, with the sections that the libraries keep. -/
  aggregate : ∀ values : Values, (∀ part, values.keeps part = capabilities.material) →
    first.aggregate.render values = second.aggregate.render values

/-- Templates that are the same to a run give the same artifacts, or the same faults. -/
theorem SameUse.generate_eq {capabilities : Capabilities} {first second : TemplateSet}
    (same : SameUse capabilities first second) (destinations : List Destination)
    (names : OutputNames) :
    generate destinations capabilities first names =
      generate destinations capabilities second names := by
  have text (tree : GraphTree) : aggregateText tree capabilities first names =
      aggregateText tree capabilities second names := by
    -- The values are the same, and so is what is made of them.
    have values : aggregateValues tree capabilities first names =
        aggregateValues tree capabilities second names := by
      rw [aggregateValues, aggregateValues, Capabilities.apply_congr same.host, importBlock,
        importBlock, same.imports]
    rw [aggregateText_eq, aggregateText_eq, values,
      same.aggregate _ (keeps_aggregateValues tree capabilities second names)]
  simp only [generate, text, same.sealedDestination]

section

variable {sources : TemplateSources} {templates : TemplateSet}

/-- The host that is chosen is read from the source that is chosen for it. -/
theorem TemplateSources.parse_chosenHost (read : TemplateSet.parse sources = .ok templates)
    (capabilities : Capabilities) : Template.parse (sources.chosenHost capabilities.animation) =
      .ok (capabilities.host templates.plainHost templates.animatedHost) := by
  -- Both sources are read, whichever of them is chosen.
  obtain ⟨-, -, plain, animated, -⟩ := TemplateSet.parse_eq_ok_iff.1 read
  unfold TemplateSources.chosenHost Capabilities.host
  split
  · exact animated
  · exact plain

/-- The import list that is chosen is that of the sources. -/
theorem TemplateSet.baseImports_of_parse (read : TemplateSet.parse sources = .ok templates)
    (animation : Bool) : templates.baseImports animation = sources.chosenImports animation := by
  -- Either list is taken over from the sources.
  obtain ⟨-, -, -, -, -, plain, animated⟩ := parse_eq_ok_iff.1 read
  rw [baseImports, plain, animated]
  rfl

end

/-- Sets of templates are the same to a run if the sources that it chooses are. -/
theorem sameUse_of_parse {capabilities : Capabilities} {first second : TemplateSources}
    {one two : TemplateSet} (readOne : TemplateSet.parse first = .ok one)
    (readTwo : TemplateSet.parse second = .ok two)
    (host : first.chosenHost capabilities.animation = second.chosenHost capabilities.animation)
    (imports : first.chosenImports capabilities.animation =
      second.chosenImports capabilities.animation)
    (finished : first.sealedDestination = second.sealedDestination)
    (aggregate : ∀ values : Values, (∀ part, values.keeps part = capabilities.material) →
      one.aggregate.render values = two.aggregate.render values) :
    SameUse capabilities one two := by
  have hostOne := TemplateSources.parse_chosenHost readOne capabilities
  have hostTwo := TemplateSources.parse_chosenHost readTwo capabilities
  obtain ⟨-, -, -, -, finishedOne, -⟩ := TemplateSet.parse_eq_ok_iff.1 readOne
  obtain ⟨-, -, -, -, finishedTwo, -⟩ := TemplateSet.parse_eq_ok_iff.1 readTwo
  -- One source gives one template.
  rw [host] at hostOne
  exact
    { host := Except.ok.inj (hostOne.symm.trans hostTwo)
      imports := by
        rw [TemplateSet.baseImports_of_parse readOne, imports,
          TemplateSet.baseImports_of_parse readTwo]
      sealedDestination := finishedOne.trans (finished.trans finishedTwo.symm)
      aggregate := aggregate }

/-- Aggregates that are read from one source are filled alike. -/
theorem render_aggregate_congr {first second : TemplateSources} {one two : TemplateSet}
    (readOne : TemplateSet.parse first = .ok one) (readTwo : TemplateSet.parse second = .ok two)
    (same : first.aggregate = second.aggregate) (values : Values) :
    one.aggregate.render values = two.aggregate.render values := by
  obtain ⟨aggregateOne, -⟩ := TemplateSet.parse_eq_ok_iff.1 readOne
  obtain ⟨aggregateTwo, -⟩ := TemplateSet.parse_eq_ok_iff.1 readTwo
  -- One source gives one template.
  rw [same] at aggregateOne
  rw [Except.ok.inj (aggregateOne.symm.trans aggregateTwo)]

/--
Nothing that is switched off can leak into what is generated.

Without animation, the animated host and import list do not matter, and with it the plain ones do
not. Without the material library, the text of a section does not matter if its last line ends with
the section: otherwise the rest of that line would be indented as the section's text says.
-/
theorem generate_of_switchedOff {sources : TemplateSources} {templates : TemplateSet}
    (read : TemplateSet.parse sources = .ok templates) (destinations : List Destination)
    (names : OutputNames) :
    (∀ material animatedHost animatedImports others,
      TemplateSet.parse { sources with animatedHost, animatedImports } = .ok others →
      generate destinations { animation := false, material } others names =
        generate destinations { animation := false, material } templates names) ∧
    (∀ material plainHost imports others,
      TemplateSet.parse { sources with plainHost, imports } = .ok others →
      generate destinations { animation := true, material } others names =
        generate destinations { animation := true, material } templates names) ∧
    ∀ animation before inside after text others,
      sources.aggregate = before ++ "[SCAFFOLD_START]" ++ inside ++ "[SCAFFOLD_END]" ++ after →
      ¬ Edge.stop.text <:+: inside.toList → (∀ edge : Edge, ¬ edge.text <:+: text.toList) →
      (after = "" ∨ ∃ rest, after = "\n" ++ rest) →
      TemplateSet.parse { sources with
        aggregate := before ++ "[SCAFFOLD_START]" ++ text ++ "[SCAFFOLD_END]" ++ after } =
          .ok others →
      generate destinations { animation, material := false } others names =
        generate destinations { animation, material := false } templates names := by
  refine ⟨?animation, ?noAnimation, ?noMaterial⟩
  case animation =>
    intro material animatedHost animatedImports others changed
    -- The plain host and list are chosen, and these are as before.
    have same : SameUse { animation := false, material } others templates :=
      sameUse_of_parse changed read rfl rfl rfl fun values _ =>
        render_aggregate_congr changed read rfl values
    exact same.generate_eq destinations names
  case noAnimation =>
    intro material plainHost imports others changed
    have same : SameUse { animation := true, material } others templates :=
      sameUse_of_parse changed read rfl rfl rfl fun values _ =>
        render_aggregate_congr changed read rfl values
    exact same.generate_eq destinations names
  case noMaterial =>
    intro animation before inside after text others split matching free lineEnd changed
    obtain ⟨aggregate, -⟩ := TemplateSet.parse_eq_ok_iff.1 read
    obtain ⟨otherAggregate, -⟩ := TemplateSet.parse_eq_ok_iff.1 changed
    -- Whatever the section holds, aggregates are filled as the text around it says.
    have filled : ∀ values : Values, (∀ part, values.keeps part = false) →
        others.aggregate.render values = templates.aggregate.render values := by
      intro values leftOut
      rw [Template.render_of_left_out otherAggregate rfl (free .stop) lineEnd (leftOut .scaffold),
        Template.render_of_left_out aggregate split matching lineEnd (leftOut .scaffold)]
    have same : SameUse { animation, material := false } others templates :=
      sameUse_of_parse changed read rfl rfl rfl filled
    exact same.generate_eq destinations names

/-- Three changes that do not show, the last one to brackets that are not closed in a section. -/
theorem generate_of_switchedOff_three_changes :
    let destinations : List Destination :=
      [{ simpleName := "Home", route := "home", isStart := true }]
    let around (text : String) : String := "[IMPORTS_BLOCK]\n" ++ "[SCAFFOLD_START]" ++ text ++
      "[SCAFFOLD_END]" ++ "\n [NAV_GRAPHS_DECLARATION][INNER_NAV_HOST]"
    let sources : TemplateSources :=
      { aggregate := around "\t[INNER_NAV_HOST]"
        plainHost := "Host"
        animatedHost := "Host([ANIMATION_PARAMS_TO_INNER_1])"
        imports := ["a.Plain"]
        animatedImports := ["a.Animated"] }
    ∃ templates animated plain outlined : TemplateSet, TemplateSet.parse sources = .ok templates ∧
      TemplateSet.parse { sources with
        animatedHost := "[SCAFFOLD_START]b[SCAFFOLD_END]"
        animatedImports := ["b.B"] } = .ok animated ∧
      TemplateSet.parse { sources with
        plainHost := "[EXPERIMENTAL_API]"
        imports := [] } = .ok plain ∧
      TemplateSet.parse { sources with aggregate := around " [[FOO] [IMPORTS" } = .ok outlined ∧
      generate destinations ⟨false, true⟩ animated {} =
        generate destinations ⟨false, true⟩ templates {} ∧
      generate destinations ⟨true, true⟩ plain {} =
        generate destinations ⟨true, true⟩ templates {} ∧
      generate destinations ⟨true, false⟩ outlined {} =
        generate destinations ⟨true, false⟩ templates {} := by
  intro destinations around sources
  -- All four sets of sources are accepted.
  obtain ⟨templates, read⟩ := error?_eq_none_iff.1
    (show error? (TemplateSet.parse sources) = none by decide +kernel)
  obtain ⟨animated, readAnimated⟩ := error?_eq_none_iff.1
    (show error? (TemplateSet.parse { sources with
      animatedHost := "[SCAFFOLD_START]b[SCAFFOLD_END]"
      animatedImports := ["b.B"] }) = none by decide +kernel)
  obtain ⟨plain, readPlain⟩ := error?_eq_none_iff.1
    (show error? (TemplateSet.parse { sources with
      plainHost := "[EXPERIMENTAL_API]"
      imports := [] }) = none by decide +kernel)
  obtain ⟨outlined, readOutlined⟩ := error?_eq_none_iff.1
    (show error? (TemplateSet.parse { sources with
      aggregate := around " [[FOO] [IMPORTS" }) = none by decide +kernel)
  obtain ⟨noAnimation, animation, noMaterial⟩ := generate_of_switchedOff read destinations {}
  refine ⟨templates, animated, plain, outlined, read, readAnimated, readPlain, readOutlined,
    noAnimation true _ _ _ readAnimated, animation true _ _ _ readPlain, ?_⟩
  -- The changed text stands in a section of its own, whose line ends with it.
  have lineEnd : "\n [NAV_GRAPHS_DECLARATION][INNER_NAV_HOST]" =
      "\n" ++ " [NAV_GRAPHS_DECLARATION][INNER_NAV_HOST]" := by
    decide +kernel
  refine noMaterial true _ _ _ _ _ rfl ?matching ?free (.inr ⟨_, lineEnd⟩) readOutlined
  case matching => decide +kernel
  case free =>
    intro edge
    cases edge <;> decide +kernel

end Navigation
