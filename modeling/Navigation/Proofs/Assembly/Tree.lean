import Navigation.Proofs.Assembly.Violations
import Navigation.Proofs.Identifier

/-! What holds of every assembled tree: each destination in its place, and fields told apart. -/

namespace Navigation

/-- Assembly gives the graphs of all routes, and only of destinations without violations. -/
theorem assemble_eq_ok_iff {destinations : List Destination} {tree : GraphTree} :
    assemble destinations = .ok tree ↔
      (∃ destination ∈ destinations, destination.graphRoute = rootRoute) ∧
        (∀ route ∈ graphRoutes destinations, violations destinations route = []) ∧
          tree = graphTreeOf destinations := by
  -- Of the three outcomes of assembly, one is a tree.
  rw [assemble_eq]
  by_cases rooted : ∃ destination ∈ destinations, destination.graphRoute = rootRoute
  · rw [if_pos rooted]
    by_cases right : ∀ route ∈ graphRoutes destinations, violations destinations route = []
    · simp only [if_pos right, Except.ok.injEq]
      exact ⟨fun same => ⟨rooted, right, same.symm⟩, fun all => all.2.2.symm⟩
    · rw [if_neg right]
      exact iff_of_false (by simp) fun all => right all.2.1
  · rw [if_neg rooted]
    exact iff_of_false (by simp) fun all => rooted all.1

/-- A graph requires what some destination in it requires. -/
theorem mem_optIns {group : Group} {name : String} :
    name ∈ group.optIns ↔ ∃ member ∈ group.members, name ∈ member.optIns := by
  -- The set grows by one destination's names at a time.
  have general : ∀ (members : List Destination) (found : NameSet),
      name ∈ members.foldl (fun found member => found.union member.optIns) found ↔
        name ∈ found ∨ ∃ member ∈ members, name ∈ member.optIns := by
    intro members
    induction members with
    | nil => simp
    | cons member rest ih => simp [ih, or_assoc]
  simpa [Group.optIns] using general group.members NameSet.empty

/-- A graph whose identifier is in order has one of its own. -/
theorem of_identifierViolations_eq_nil {earlier : List String} {route : String}
    (right : identifierViolations earlier route = []) :
    Identifier.ofRoute route ≠ "" ∧
      ∀ other ∈ earlier, Identifier.ofRoute other ≠ Identifier.ofRoute route := by
  -- Either rule that is broken would leave a violation.
  simp only [identifierViolations] at right
  split at right
  · simp at right
  · next named =>
    split at right
    · simp at right
    · next unmet => exact ⟨named, by simpa using unmet⟩

/-- Graphs whose identifiers are all in order have different ones. -/
theorem identifiers_distinct {met rest : List String} (distinct : rest.Nodup)
    (right : ∀ route ∈ rest,
      identifierViolations (met ++ rest.takeWhile (· != route)) route = []) :
    (rest.map Identifier.ofRoute).Nodup ∧
      ∀ other ∈ met, ∀ route ∈ rest, Identifier.ofRoute other ≠ Identifier.ofRoute route := by
  -- Each graph is compared with all those before it, of which it becomes one in turn.
  induction rest generalizing met with
  | nil => simp
  | cons first rest ih =>
    obtain ⟨absent, distinct⟩ := List.nodup_cons.1 distinct
    have own := of_identifierViolations_eq_nil (right first (by simp))
    have behind : ∀ route ∈ rest, identifierViolations
        ((met ++ [first]) ++ rest.takeWhile (· != route)) route = [] := by
      intro route member
      have other : first ≠ route := fun same => absent (same ▸ member)
      simpa [other] using right route (by simp [member])
    obtain ⟨different, apart⟩ := ih distinct behind
    constructor
    · -- The first identifier is taken by none of the graphs behind.
      rw [List.map_cons, List.nodup_cons]
      refine ⟨fun taken => ?_, different⟩
      obtain ⟨route, member, same⟩ := List.mem_map.1 taken
      exact apart first (by simp) route member same.symm
    · -- A graph met before differs from the first and from those behind.
      intro other before route member
      rcases List.mem_cons.1 member with rfl | member
      · exact own.2 other (by simp [before])
      · exact apart other (by simp [before]) route member

/-- The graphs of all routes are listed in the order of the routes. -/
theorem graphs_graphTreeOf (destinations : List Destination) :
    (graphTreeOf destinations).graphs.map (·.route) = graphRoutes destinations := by
  -- Each graph has the route it was made for.
  simp [graphTreeOf, GraphTree.graphs, graphRoutes, graphAt, Function.comp_def]

/-- Every graph of the tree is that of some route. -/
theorem mem_graphs_graphTreeOf {destinations : List Destination} {graph : NavGraph}
    (member : graph ∈ (graphTreeOf destinations).graphs) :
    ∃ nested, ∃ route ∈ graphRoutes destinations, graph = graphAt destinations nested route := by
  -- It is one of the nested graphs, or the root graph.
  simp only [graphTreeOf, GraphTree.graphs, List.mem_append, List.mem_map,
    List.mem_singleton] at member
  rcases member with ⟨route, listed, rfl⟩ | rfl
  · exact ⟨_, route, by simp [graphRoutes, listed], rfl⟩
  · exact ⟨_, rootRoute, by simp [graphRoutes], rfl⟩

/-- The fields are named after the routes, in the same order. -/
theorem identifiers_graphTreeOf (destinations : List Destination) :
    (graphTreeOf destinations).graphs.map (·.identifier) =
      (graphRoutes destinations).map Identifier.ofRoute := by
  -- A graph's identifier is made from its route.
  rw [← graphs_graphTreeOf, List.map_map]
  refine List.map_congr_left fun graph member => ?_
  obtain ⟨nested, route, -, rfl⟩ := mem_graphs_graphTreeOf member
  rfl

/-- The root graph is a root. -/
theorem isRoot_root_graphTreeOf (destinations : List Destination) :
    (graphTreeOf destinations).root.isRoot = true := by
  -- It was made for the root route.
  simp [graphTreeOf, graphAt, NavGraph.isRoot]

/-- No graph but the root graph is a root. -/
theorem filter_isRoot_graphTreeOf (destinations : List Destination) :
    (graphTreeOf destinations).graphs.filter NavGraph.isRoot =
      [(graphTreeOf destinations).root] := by
  -- The routes below the root are all different from the root's.
  have none : (graphTreeOf destinations).nested.filter NavGraph.isRoot = [] := by
    refine List.filter_eq_nil_iff.2 fun graph member => ?_
    obtain ⟨route, listed, rfl⟩ := List.mem_map.1 member
    simpa [NavGraph.isRoot, graphAt] using (mem_nestedRoutes.1 listed).1
  rw [GraphTree.graphs, List.filter_append, none, List.nil_append,
    List.filter_cons_of_pos (isRoot_root_graphTreeOf destinations), List.filter_nil]

/-- A route is that of a graph exactly if some destination names it, given that the root has any. -/
theorem mem_graphRoutes {destinations : List Destination} {route : String}
    (rooted : ∃ destination ∈ destinations, destination.graphRoute = rootRoute) :
    route ∈ graphRoutes destinations ↔
      ∃ destination ∈ destinations, destination.graphRoute = route := by
  -- The root's route is always listed, so here the root has to have a destination.
  simp only [graphRoutes, List.mem_append, List.mem_singleton, mem_nestedRoutes]
  by_cases root : route = rootRoute
  · simpa [root] using rooted
  · simp [root]

/-- Looking a route up finds the one graph that has it. -/
theorem find?_route_eq_some_iff {graphs : List NavGraph} {route : String} {graph : NavGraph}
    (distinct : (graphs.map (·.route)).Nodup) :
    graphs.find? (·.route == route) = some graph ↔ graph ∈ graphs ∧ graph.route = route := by
  -- A graph behind the first one that fits would repeat its route.
  induction graphs with
  | nil => simp
  | cons first rest ih =>
    rw [List.map_cons, List.nodup_cons] at distinct
    obtain ⟨absent, distinct⟩ := distinct
    rw [List.find?_cons]
    by_cases here : first.route = route
    · simp only [here, beq_self_eq_true, Option.some.injEq, List.mem_cons]
      constructor
      · rintro rfl
        exact ⟨.inl rfl, here⟩
      · -- The first one fits, and a second one cannot.
        rintro ⟨rfl | member, same⟩
        · rfl
        · exact absurd (List.mem_map.2 ⟨graph, member, same.trans here.symm⟩) absent
    · have other : (first.route == route) = false := by simpa using here
      simp only [other, ih distinct, List.mem_cons]
      constructor
      · exact fun ⟨member, same⟩ => ⟨.inr member, same⟩
      · rintro ⟨rfl | member, same⟩
        · exact absurd same here
        · exact ⟨member, same⟩

/-- A graph with one start opens with the simple name of that one. -/
theorem starts_graphAt {destinations : List Destination} {route : String}
    (single : startCount destinations route = 1) (nested : List String) :
    ((membersAt route destinations).filter (·.isStart)).map (·.simpleName) =
      [(graphAt destinations nested route).start] := by
  -- Counting the marked destinations is listing them, and the list has one element.
  rw [startCount, List.countP_eq_length_filter] at single
  obtain ⟨only, listed⟩ := List.length_eq_one_iff.1 single
  have first : (membersAt route destinations).find? (·.isStart) = some only := by
    rw [← List.head?_filter, listed]
    rfl
  simp [graphAt, listed, first]

/-- What assembly guarantees of the graphs it makes of destinations. -/
structure AssembledFrom (destinations : List Destination) (tree : GraphTree) : Prop where
  /-- The last graph is a root, and it is the tree's root graph. -/
  root_last : tree.graphs.getLast?.filter NavGraph.isRoot = some tree.root
  /-- No other graph is a root. -/
  root_only : tree.graphs.filter NavGraph.isRoot = [tree.root]
  /-- The other graphs are those of the other routes, by first sighting. -/
  nested_routes : tree.nested.map (·.route) = nestedRoutes destinations
  /-- A graph lists its own destinations, in input order. -/
  entries : ∀ graph ∈ tree.graphs, graph.entries =
    (membersAt graph.route destinations).map fun member => ⟨member.route, member.simpleName⟩
  /-- Exactly one of them is a start, and the graph opens with it. -/
  start : ∀ graph ∈ tree.graphs,
    ((membersAt graph.route destinations).filter (·.isStart)).map (·.simpleName) = [graph.start]
  /-- A graph requires what its destinations require. -/
  optIns : ∀ graph ∈ tree.graphs, ∀ name,
    name ∈ graph.optIns ↔ ∃ member ∈ membersAt graph.route destinations, name ∈ member.optIns
  /-- A field is named after its route, by at least one letter and by letters only. -/
  identifier : ∀ graph ∈ tree.graphs, graph.identifier = Identifier.ofRoute graph.route ∧
    graph.identifier ≠ "" ∧ ∀ c ∈ graph.identifier.toList, c.isAlpha = true
  /-- No two fields share a name. -/
  identifiers_distinct : (tree.graphs.map (·.identifier)).Nodup
  /-- Nothing is nested in the graphs below the root. -/
  nested_nested : ∀ graph ∈ tree.nested, graph.nested = []
  /-- The root graph names the fields of the others, in their order. -/
  root_nested : tree.root.nested = tree.nested.map (·.identifier)
  /-- A look-up finds the graph that has the route, which is the only one. -/
  graph? : ∀ route graph,
    tree.graph? route = some graph ↔ graph ∈ tree.graphs ∧ graph.route = route
  /-- A look-up finds a graph for the routes that destinations name, and for no others. -/
  graph?_isSome : ∀ route, (tree.graph? route).isSome = true ↔
    ∃ destination ∈ destinations, destination.graphRoute = route

/--
Every assembled tree is as it is meant to be.

Nothing is lost, repeated or moved, and every field can be told from the others.
-/
theorem assembledFrom_of_assemble {destinations : List Destination} {tree : GraphTree}
    (assembled : assemble destinations = .ok tree) : AssembledFrom destinations tree := by
  obtain ⟨rooted, right, rfl⟩ := assemble_eq_ok_iff.1 assembled
  have routes := graphs_graphTreeOf destinations
  -- Graphs are told apart by their routes.
  have distinct : ((graphTreeOf destinations).graphs.map (·.route)).Nodup := by
    rw [routes]
    exact nodup_graphRoutes destinations
  -- Without violations, each identifier differs from those of all graphs before it.
  have own : ∀ route ∈ graphRoutes destinations, identifierViolations
      ([] ++ (graphRoutes destinations).takeWhile (· != route)) route = [] :=
    fun route listed => (violations_eq_nil_iff.1 (right route listed)).1
  have identifiers := identifiers_distinct (nodup_graphRoutes destinations) own
  have named : ∀ route ∈ graphRoutes destinations, Identifier.ofRoute route ≠ "" :=
    fun route listed => (of_identifierViolations_eq_nil (own route listed)).1
  have found : ∀ route graph, (graphTreeOf destinations).graph? route = some graph ↔
      graph ∈ (graphTreeOf destinations).graphs ∧ graph.route = route :=
    fun route graph => find?_route_eq_some_iff distinct
  refine
    { root_last := by simp [GraphTree.graphs, isRoot_root_graphTreeOf]
      root_only := filter_isRoot_graphTreeOf destinations
      nested_routes := by simp [graphTreeOf, graphAt, Function.comp_def]
      entries := ?entries
      start := ?start
      optIns := ?optIns
      identifier := ?identifier
      identifiers_distinct := ?distinct
      nested_nested := by simp [graphTreeOf, graphAt]
      root_nested := by simp [graphTreeOf, graphAt]
      graph? := found
      graph?_isSome := ?lookup }
  case entries =>
    intro graph member
    obtain ⟨nested, route, -, rfl⟩ := mem_graphs_graphTreeOf member
    rfl
  case start =>
    intro graph member
    obtain ⟨nested, route, listed, rfl⟩ := mem_graphs_graphTreeOf member
    exact starts_graphAt ((violations_eq_nil_iff.1 (right route listed)).2.2) nested
  case optIns =>
    intro graph member name
    obtain ⟨nested, route, -, rfl⟩ := mem_graphs_graphTreeOf member
    exact mem_optIns
  case identifier =>
    intro graph member
    obtain ⟨nested, route, listed, rfl⟩ := mem_graphs_graphTreeOf member
    exact ⟨rfl, named route listed, fun c kept => Identifier.isAlpha_of_mem_ofRoute kept⟩
  case distinct =>
    rw [identifiers_graphTreeOf]
    exact identifiers.1
  case lookup =>
    intro route
    -- Both sides say that the route is among those of the graphs.
    rw [← mem_graphRoutes rooted, ← routes, Option.isSome_iff_exists, List.mem_map]
    simp only [found]

/-- Two destinations in the root graph and one in a graph below it. -/
theorem assembledFrom_of_assemble_two_graphs :
    let destinations : List Destination :=
      [{ simpleName := "Home", route := "home", isStart := true },
        { simpleName := "Settings", route := "s", graphRoute := "settings_graph", isStart := true },
        { simpleName := "Detail", route := "detail/\x7bid\x7d" }]
    ∃ tree, assemble destinations = .ok tree ∧ AssembledFrom destinations tree ∧
      tree.root.nested = ["settingsGraph"] := by
  -- The order of the graphs is not that of the destinations.
  intro destinations
  have assembled : assemble destinations = .ok (graphTreeOf destinations) := by decide +kernel
  exact ⟨_, assembled, assembledFrom_of_assemble assembled, by decide +kernel⟩

end Navigation
