import Navigation.Generation
import Navigation.Proofs.Assembly.Tree
import Navigation.Proofs.Capabilities
import Navigation.Proofs.Declaration
import Navigation.Proofs.TemplateSet

/-! No token is left in what is generated, whatever stands in the destinations. -/

namespace Navigation

open Token (Sealed find?)

/-- A graph without violations has no token in any of its texts. -/
theorem find?_of_mem_textsAt {destinations : List Destination} {route : String}
    (right : tokenViolations destinations route = []) :
    ∀ text ∈ textsAt destinations route, find? text.toList = none := by
  intro text member
  -- A token would be one of the violations.
  rw [tokenViolations, List.map_eq_nil_iff, List.filter_eq_nil_iff] at right
  exact Token.occursIn_eq_false_iff.1 (by simpa using right text member)

/-- The graph of a route without violations brings no token into its declaration. -/
theorem free_graphAt {destinations : List Destination} {route : String} {nested : List String}
    (right : tokenViolations destinations route = [])
    (identifiers : ∀ name ∈ nested, '[' ∉ name.toList) :
    (graphAt destinations nested route).Free := by
  have texts := find?_of_mem_textsAt right
  have own : ∀ member ∈ membersAt route destinations,
      ∀ text ∈ [member.route, member.simpleName] ++ member.optIns.names,
        find? text.toList = none := by
    intro member listed text inside
    refine texts text (List.mem_cons_of_mem route ?_)
    exact List.mem_flatMap.2 ⟨member, listed, inside⟩
  refine
    { identifier := Identifier.bracket_not_mem_ofRoute route
      route := texts route (by simp [textsAt])
      start := ?start
      entries := ?entries
      nested := identifiers
      optIns := ?optIns }
  case start =>
    -- The start is one of the members, or there is none and its name is empty.
    simp only [graphAt]
    cases found : (membersAt route destinations).find? (·.isStart) with
    | none => rfl
    | some first =>
      exact own first (List.mem_of_find?_eq_some found) first.simpleName (by simp)
  case entries =>
    -- An entry has the texts of one destination.
    intro entry member
    obtain ⟨destination, listed, rfl⟩ := List.mem_map.1 member
    exact ⟨own destination listed _ (by simp), own destination listed _ (by simp)⟩
  case optIns =>
    -- An annotation is required by one of them.
    intro name member
    obtain ⟨destination, listed, required⟩ := mem_optIns.1 member
    exact own destination listed name (List.mem_append_right _ required)

/-- No graph of an assembled tree brings a token into its declaration. -/
theorem free_of_assemble {destinations : List Destination} {tree : GraphTree}
    (assembled : assemble destinations = .ok tree) : ∀ graph ∈ tree.graphs, graph.Free := by
  obtain ⟨-, right, rfl⟩ := assemble_eq_ok_iff.1 assembled
  have clean : ∀ route ∈ graphRoutes destinations, tokenViolations destinations route = [] :=
    fun route listed => (violations_eq_nil_iff.1 (right route listed)).2.1
  intro graph member
  simp only [graphTreeOf, GraphTree.graphs, List.mem_append, List.mem_map,
    List.mem_singleton] at member
  rcases member with ⟨route, listed, rfl⟩ | rfl
  · exact free_graphAt (clean route (by simp [graphRoutes, listed])) (by simp)
  · -- The root graph also lists the fields of the others, which are identifiers.
    refine free_graphAt (clean rootRoute (by simp [graphRoutes])) fun name inside => ?_
    obtain ⟨route, -, rfl⟩ := List.mem_map.1 inside
    exact Identifier.bracket_not_mem_ofRoute route

/-- The import block has a bracket only if a name in it has one. -/
theorem ImportList.bracket_not_mem_render {base : List String} {additional : NameSet}
    (listed : ∀ name ∈ base, '[' ∉ name.toList)
    (added : ∀ name ∈ additional, '[' ∉ name.toList) :
    '[' ∉ (ImportList.render base additional).toList := by
  -- Every line is the keyword with a name, taken from the list or from the set.
  refine Token.bracket_not_mem_intercalate (by decide) fun line member => ?_
  obtain ⟨name, inside, rfl⟩ := List.mem_map.1 member
  have absent : '[' ∉ name.toList := by
    rcases List.mem_append.1 inside with old | new
    · exact listed name old
    · exact added name (List.mem_filter.1 new).1
  exact Token.bracket_not_mem_append (by decide) absent

/-- Destinations that can be assembled can be generated from, with any templates. -/
theorem generate_of_assemble {destinations : List Destination} {tree : GraphTree}
    (assembled : assemble destinations = .ok tree) (capabilities : Capabilities)
    (templates : TemplateSet) (names : OutputNames) :
    ∃ generated, generate destinations capabilities templates names = .ok generated :=
  -- Once the destinations are assembled, nothing else can fail.
  ⟨_, Outcome.map_eq_ok_iff.2 ⟨tree, assembled, rfl⟩⟩

/--
No token is left in a generated aggregate, whatever stands in the destinations.

This takes templates and imports whose only brackets are those of known tokens, and names of
generated code that have no tokens themselves.
-/
theorem not_occursIn_aggregate {destinations : List Destination} {capabilities : Capabilities}
    {sources : TemplateSources} {templates : TemplateSet} {names : OutputNames}
    {generated : Generated} (read : TemplateSet.parse sources = .ok templates)
    (aggregate : Template.OnlyMarkers sources.aggregate.toList)
    (host : Template.OnlyMarkers
      (if capabilities.animation then sources.animatedHost else sources.plainHost).toList)
    (imports : ∀ name ∈ templates.baseImports capabilities.animation, '[' ∉ name.toList)
    (graphType : Token.occursIn names.graphType = false)
    (graphsObject : Token.occursIn names.graphsObject = false)
    (made : generate destinations capabilities templates names = .ok generated) :
    Token.occursIn generated.aggregate.contents = false := by
  obtain ⟨readAggregate, -, readPlain, readAnimated, -⟩ := TemplateSet.parse_eq_ok_iff.1 read
  obtain ⟨tree, assembled, rfl⟩ := Outcome.map_eq_ok_iff.1 made
  rw [Token.occursIn_eq_false_iff] at graphType graphsObject ⊢
  -- The declaration is sealed, and neither the host nor the import block has any bracket.
  have declaration := Declaration.sealed_fragment (free_of_assemble assembled) graphType
    graphsObject
  have decided := Capabilities.all_apply readPlain readAnimated host
    (Values.all_empty List.not_mem_nil)
  have block : '[' ∉ (ImportList.render (templates.baseImports capabilities.animation)
      (capabilities.experimentalApi.imports.union NameSet.empty)).toList := by
    refine ImportList.bracket_not_mem_render imports fun name member => ?_
    exact capabilities.bracket_not_mem_of_mem_imports name (by simpa using member)
  have values : Values.All Sealed
      (capabilities.apply templates.plainHost templates.animatedHost Values.empty).1 :=
    fun placeholder => Token.sealed_of_not_mem (decided placeholder)
  -- Both are set last, and then every value of the aggregate is sealed.
  have all := (values.set declaration .navGraphsDeclaration).set
    (Token.sealed_of_not_mem block) .imports
  exact (Template.sealed_render readAggregate aggregate all).find?_eq_none

/-- Names and routes with brackets, a quote and a line feed, in the animated variant. -/
theorem not_occursIn_aggregate_of_brackets :
    let destinations : List Destination :=
      [{ simpleName := "]HOME", route := "[A\n]", isStart := true },
        { simpleName := "X]", route := "[OPEN\"", optIns := NameSet.ofList ["[B", "C]"] }]
    let sources : TemplateSources :=
      { aggregate := "[IMPORTS_BLOCK]\n  [NAV_GRAPHS_DECLARATION]\n[INNER_NAV_HOST]"
        plainHost := "[unused"
        animatedHost := "[SCAFFOLD_START]A[SCAFFOLD_END]([ANIMATION_PARAMS_TO_INNER_1])"
        animatedImports := ["a.B"] }
    ∃ templates generated, TemplateSet.parse sources = .ok templates ∧
      generate destinations ⟨true, false⟩ templates {} = .ok generated ∧
      Token.occursIn generated.aggregate.contents = false := by
  -- None of the texts is a token, but some would be the half of one.
  intro destinations sources
  have read : TemplateSet.parse sources = .ok
      ⟨⟨[.item (.slot .imports []), .item (.literal "\n  ".toList),
          .item (.slot .navGraphsDeclaration [' ', ' ']), .item (.literal ['\n']),
          .item (.slot .innerNavHost [])]⟩,
        "", ⟨[.item (.literal "[unused".toList)]⟩,
        ⟨[.block .scaffold [.literal ['A']], .item (.literal ['(']),
          .item (.slot .animationParamsToInner1 []), .item (.literal [')'])]⟩,
        [], ["a.B"]⟩ := by
    decide +kernel
  have assembled : assemble destinations = .ok (graphTreeOf destinations) := by decide +kernel
  obtain ⟨generated, made⟩ := generate_of_assemble assembled ⟨true, false⟩ _ {}
  exact ⟨_, generated, read, made, not_occursIn_aggregate read (by decide +kernel)
    (by decide +kernel) (by decide +kernel) (by decide) (by decide) made⟩

end Navigation
