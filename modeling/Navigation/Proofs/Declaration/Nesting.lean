import Navigation.Declaration
import Navigation.Proofs.Assembly.Tree
import Navigation.Proofs.Layout.Nesting

/-! The declaration of graphs is nested code: each block in it is closed, by its own bracket. -/

namespace Navigation

namespace Declaration

open Layout (Balanced ListsOnly Pairs Step Writer blocksAfter listed)

/-- The annotations of a field are lines of their own. -/
theorem annotations_eq (names : List String) :
    names.map (fun name => Step.line ("@" ++ name)) = (names.map ("@" ++ ·)).map .line := by
  -- Either way there is one line for each name.
  rw [List.map_map]
  rfl

/-- What a field has in front of its entries: its annotations, and what is said of the graph. -/
def headSteps (graphType : String) (graph : NavGraph) : List Step :=
  (graph.optIns.names.map ("@" ++ ·)).map .line ++
    [.opens ("val " ++ graph.identifier ++ " = " ++ graphType ++ "("),
      .line ("route = " ++ Literal.quote graph.route ++ ","),
      .line ("startDestination = " ++ graph.start ++ ",")]

/-- A field has its head, the map of its entries, and the list of nested graphs if there is one. -/
theorem graphSteps_eq (graphType : String) (graph : NavGraph) :
    graphSteps graphType graph = headSteps graphType graph ++
      .opens "destinations = mapOf(" :: (listed (graph.entries.map entry) ++
        (nestedSteps graph ++ [.closes ")", .closes ")"])) := by
  -- The steps are only grouped in another way.
  simp [graphSteps, headSteps, annotations_eq]

/-- Whether the field of a graph lists graphs that are nested in it. -/
def ListsNested (graph : NavGraph) : Prop :=
  graph.isRoot = true ∧ graph.nested ≠ []

/-- A field that lists nested graphs closes the map of its entries, and opens another block. -/
theorem nestedSteps_of_lists {graph : NavGraph} (lists : ListsNested graph) :
    nestedSteps graph =
      .closes ")," :: .opens "nestedNavGraphs = listOf(" :: listed graph.nested := by
  -- A root graph with nested graphs is what the condition asks for.
  obtain ⟨root, nested⟩ := lists
  have some : graph.hasNested = true := by simpa [NavGraph.hasNested] using nested
  simp [nestedSteps, root, some]

/-- Any other field leaves the map of its entries open there. -/
theorem nestedSteps_of_lone {graph : NavGraph} (lone : ¬ ListsNested graph) :
    nestedSteps graph = [] := by
  -- The condition asks for a root graph that lists nested ones.
  rw [nestedSteps, if_neg]
  intro both
  obtain ⟨root, some⟩ := Bool.and_eq_true_iff.1 both
  exact lone ⟨root, by simpa [NavGraph.hasNested] using some⟩

/-- The blocks inside of a field are balanced, whether or not one of them lists nested graphs. -/
theorem balanced_inside (graph : NavGraph) :
    Balanced (.opens "destinations = mapOf(" :: (listed (graph.entries.map entry) ++
      (nestedSteps graph ++ [.closes ")"]))) := by
  by_cases lists : ListsNested graph
  · -- The map is closed in front of the list, so there are two blocks behind one another.
    rw [nestedSteps_of_lists lists]
    have entries : Balanced (.opens "destinations = mapOf(" ::
        (listed (graph.entries.map entry) ++ [.closes "),"])) :=
      .block (by decide) (Balanced.listed _)
    have nested : Balanced (.opens "nestedNavGraphs = listOf(" ::
        (listed graph.nested ++ [.closes ")"])) :=
      .block (by decide) (Balanced.listed _)
    simpa using entries.append nested
  · -- The map is the only block.
    rw [nestedSteps_of_lone lists]
    exact .block (by decide) (Balanced.listed _)

/-- The field of a graph is balanced. -/
theorem balanced_graphSteps (graphType : String) (graph : NavGraph) :
    Balanced (graphSteps graphType graph) := by
  -- The bracket behind the type is closed by the last line, whatever the type is called.
  have pairs : Pairs ("val " ++ graph.identifier ++ " = " ++ graphType ++ "(") ")" :=
    .inl ⟨by rw [String.toList_append, List.getLast?_append]; rfl, .inl rfl⟩
  have said : Balanced [.line ("route = " ++ Literal.quote graph.route ++ ","),
      .line ("startDestination = " ++ graph.start ++ ",")] :=
    Balanced.lines ["route = " ++ Literal.quote graph.route ++ ",",
      "startDestination = " ++ graph.start ++ ","]
  have field := Balanced.block pairs (said.append (balanced_inside graph))
  rw [graphSteps_eq, headSteps]
  simpa using (Balanced.lines (graph.optIns.names.map ("@" ++ ·))).append field

/-- The field of a graph is balanced together with the empty line in front of it. -/
theorem balanced_field (graphType : String) (graph : NavGraph) :
    Balanced (.blank :: graphSteps graphType graph) :=
  -- A blank line opens and closes nothing.
  Balanced.blank.append (balanced_graphSteps graphType graph)

/-- The declaration is balanced. -/
theorem balanced_steps (graphType object : String) (tree : GraphTree) :
    Balanced (steps graphType object tree) := by
  -- The brace behind the object's name is closed by the last line.
  have pairs : Pairs ("object " ++ object ++ " \x7b") "\x7d" :=
    .inr ⟨by rw [String.toList_append, List.getLast?_append]; rfl, rfl⟩
  exact .block pairs (Balanced.flatMap (balanced_field graphType) tree.graphs)

/-- Lines of text open no block. -/
theorem count_opens_lines (opening : String) (texts : List String) :
    (texts.map Step.line).count (.opens opening) = 0 := by
  -- A line opens no block.
  simp [List.count_eq_zero]

/-- In front of its entries, a field opens the block that is called after the graph. -/
theorem count_opens_headSteps {opening : String} (other : opening.toList.head? ≠ some 'v')
    (graphType : String) (graph : NavGraph) :
    (headSteps graphType graph).count (.opens opening) = 0 := by
  -- That block is announced by a keyword, so its first line is not the one that is asked for.
  have apart : Step.opens ("val " ++ graph.identifier ++ " = " ++ graphType ++ "(") ≠
      .opens opening := by
    intro same
    rw [← Step.opens.inj same] at other
    simp [String.toList_append] at other
  rw [headSteps, List.count_append, count_opens_lines, List.count_cons_of_ne apart]
  rfl

/-- A field without nested graphs opens one block inside of that. -/
theorem count_opens_of_lone {opening : String} (other : opening.toList.head? ≠ some 'v')
    (graphType : String) {graph : NavGraph} (lone : ¬ ListsNested graph) :
    (graphSteps graphType graph).count (.opens opening) =
      [Step.opens "destinations = mapOf("].count (.opens opening) := by
  -- Two blocks are opened, and the first of them by the head of the field.
  rw [graphSteps_eq, nestedSteps_of_lone lone, List.count_append,
    count_opens_headSteps other, Layout.listed_eq]
  simp [List.count_cons, count_opens_lines]

/-- A field with nested graphs opens two blocks inside of that. -/
theorem count_opens_of_lists {opening : String} (other : opening.toList.head? ≠ some 'v')
    (graphType : String) {graph : NavGraph} (lists : ListsNested graph) :
    (graphSteps graphType graph).count (.opens opening) =
      [Step.opens "destinations = mapOf(", .opens "nestedNavGraphs = listOf("].count
        (.opens opening) := by
  -- A third block is opened in front of the nested graphs.
  rw [graphSteps_eq, nestedSteps_of_lists lists, List.count_append,
    count_opens_headSteps other, Layout.listed_eq, Layout.listed_eq]
  simp [List.count_cons, count_opens_lines]

/-- The map of a field's entries is a single block, which lists the entries. -/
theorem listsOnly_entries (graphType : String) (graph : NavGraph) :
    ListsOnly "destinations = mapOf(" (graph.entries.map entry) (graphSteps graphType graph) := by
  -- The line that closes the map depends on whether another block follows.
  by_cases lists : ListsNested graph
  · refine ⟨(count_opens_of_lists (by decide) graphType lists).trans (by decide),
      headSteps graphType graph, "),", .opens "nestedNavGraphs = listOf(" ::
        (listed graph.nested ++ [.closes ")", .closes ")"]), ?_⟩
    rw [graphSteps_eq, nestedSteps_of_lists lists, Layout.listed_eq_dropLast (graph.entries.map _)]
    rfl
  · refine ⟨(count_opens_of_lone (by decide) graphType lists).trans (by decide),
      headSteps graphType graph, ")", [.closes ")"], ?_⟩
    rw [graphSteps_eq, nestedSteps_of_lone lists, Layout.listed_eq_dropLast (graph.entries.map _)]
    rfl

/-- The list of nested graphs, where there is one, is a single block, which lists their fields. -/
theorem listsOnly_nested (graphType : String) {graph : NavGraph} (lists : ListsNested graph) :
    ListsOnly "nestedNavGraphs = listOf(" graph.nested (graphSteps graphType graph) := by
  -- In front of it stand the head of the field and the map of the entries.
  refine ⟨(count_opens_of_lists (by decide) graphType lists).trans (by decide),
    headSteps graphType graph ++ .opens "destinations = mapOf(" ::
      (listed (graph.entries.map entry) ++ [.closes "),"]), ")", [.closes ")"], ?_⟩
  rw [graphSteps_eq, nestedSteps_of_lists lists, ← Layout.listed_eq_dropLast]
  simp

/-- A field has a list of nested graphs exactly if it is that of a root graph which has some. -/
theorem opens_nested_mem_graphSteps_iff {graphType : String} {graph : NavGraph} :
    .opens "nestedNavGraphs = listOf(" ∈ graphSteps graphType graph ↔ ListsNested graph := by
  -- The blocks of that kind are counted, and there is one or there is none.
  rw [← List.count_pos_iff]
  by_cases lists : ListsNested graph
  · rw [count_opens_of_lists (by decide) graphType lists]
    exact iff_of_true (by decide) lists
  · rw [count_opens_of_lone (by decide) graphType lists]
    exact iff_of_false (by decide) lists

/-- Listed items start with a space only if one of them does. -/
theorem head?_ne_space_of_mem_listed {items : List String}
    (flush : ∀ item ∈ items, item.toList.head? ≠ some ' ') :
    ∀ step ∈ listed items, step.text.toList.head? ≠ some ' ' := by
  intro step member
  obtain ⟨item, among, rfl | rfl⟩ := Layout.mem_listed member
  · exact flush item among
  · -- The comma comes first if the item is empty.
    have first := flush item among
    show (item ++ ",").toList.head? ≠ some ' '
    rw [String.toList_append]
    cases chars : item.toList with
    | nil => decide
    | cons c rest => rwa [chars] at first

/-- No line of a field starts with a space of its own. -/
theorem head?_ne_space_of_mem_graphSteps {graphType : String} {graph : NavGraph}
    (flush : ∀ name ∈ graph.nested, name.toList.head? ≠ some ' ') :
    ∀ step ∈ graphSteps graphType graph, step.text.toList.head? ≠ some ' ' := by
  -- All lines start with a fixed character, but for those that list nested graphs.
  have head : ∀ step ∈ headSteps graphType graph, step.text.toList.head? ≠ some ' ' := by
    refine List.forall_mem_append.2 ⟨fun step member => ?_, ?_⟩
    · obtain ⟨text, listed, rfl⟩ := List.mem_map.1 member
      obtain ⟨name, -, rfl⟩ := List.mem_map.1 listed
      simp [Step.text, String.toList_append]
    · simp [Step.text, String.toList_append]
  -- An entry starts with the quote of its route.
  have entries : ∀ step ∈ listed (graph.entries.map entry),
      step.text.toList.head? ≠ some ' ' := by
    refine head?_ne_space_of_mem_listed fun item member => ?_
    obtain ⟨destination, -, rfl⟩ := List.mem_map.1 member
    simp [entry, Literal.quote, Literal.encode, String.toList_append]
  -- The names of nested graphs do not start with a blank, which is assumed.
  have nested : ∀ step ∈ nestedSteps graph, step.text.toList.head? ≠ some ' ' := by
    by_cases lists : ListsNested graph
    · rw [nestedSteps_of_lists lists, List.forall_mem_cons, List.forall_mem_cons]
      exact ⟨by decide, by decide, head?_ne_space_of_mem_listed flush⟩
    · simp [nestedSteps_of_lone lists]
  rw [graphSteps_eq]
  refine List.forall_mem_append.2 ⟨head, List.forall_mem_cons.2 ⟨by decide, ?_⟩⟩
  exact List.forall_mem_append.2 ⟨entries, List.forall_mem_append.2 ⟨nested, by decide⟩⟩

/-- No line of a declaration starts with a space of its own. -/
theorem head?_ne_space {graphType object : String} {tree : GraphTree}
    (flush : ∀ graph ∈ tree.graphs, ∀ name ∈ graph.nested, name.toList.head? ≠ some ' ') :
    ∀ step ∈ steps graphType object tree, step.text.toList.head? ≠ some ' ' := by
  -- The fields stand between the first line and the last, each behind an empty line.
  rw [steps]
  refine List.forall_mem_append.2 ⟨List.forall_mem_cons.2 ⟨?_, ?_⟩, by decide⟩
  · simp [Step.text, String.toList_append]
  · intro step member
    obtain ⟨graph, listed, inside⟩ := List.mem_flatMap.1 member
    rcases List.mem_cons.1 inside with rfl | inside
    · decide
    · exact head?_ne_space_of_mem_graphSteps (flush graph listed) step inside

/-- The declaration up to the fields of some graphs, these included. -/
def upTo (graphType object : String) (graphs : List NavGraph) : List Step :=
  .opens ("object " ++ object ++ " \x7b") ::
    graphs.flatMap (fun graph => .blank :: graphSteps graphType graph)

/-- What holds while the declaration of a tree's graphs is written, one step after the other. -/
structure Nesting (graphType object : String) (tree : GraphTree) : Prop where
  /-- All steps together write the declaration. -/
  text : (Writer.run (steps graphType object tree)).finish = (fragment graphType object tree).text
  /-- At any moment, what is still to be written is laid out at the depth of the writer. -/
  laidOut : ∀ front back, steps graphType object tree = front ++ back →
    Layout.lines 0 (steps graphType object tree) =
      Layout.lines 0 front ++ Layout.lines (Writer.run front).depth back
  /-- The depth is the number of blocks that are open. -/
  depth : ∀ front back, steps graphType object tree = front ++ back →
    (Writer.run front).depth = (blocksAfter [] front).length
  /-- Closing a block takes one off the depth, which therefore was not zero. -/
  closes : ∀ front text back, steps graphType object tree = front ++ .closes text :: back →
    (Writer.run (front ++ [.closes text])).depth + 1 = (Writer.run front).depth
  /-- The block that is closed is the one that was opened last, and by its own bracket. -/
  pairs : ∀ front text back, steps graphType object tree = front ++ .closes text :: back →
    ∃ opening outer, blocksAfter [] front = opening :: outer ∧ Pairs opening text
  /-- Each line has four spaces in front of it for each block around it, and not one more. -/
  indent : ∀ front step back, steps graphType object tree = front ++ step :: back →
    step ≠ .blank → step.text.toList.head? ≠ some ' ' ∧
      (Writer.run (front ++ [step])).out = (Writer.run front).out ++
        (List.replicate (4 * (step.around (blocksAfter [] front)).length) ' ' ++
          (step.text.toList ++ ['\n']))
  /-- The field of each graph starts and ends inside of one block, that of the object. -/
  fields : ∀ before graph after, tree.graphs = before ++ graph :: after →
    upTo graphType object before ++ .blank :: graphSteps graphType graph <+:
      steps graphType object tree ∧
    (Writer.run (upTo graphType object before ++ [.blank])).depth = 1 ∧
    (Writer.run (upTo graphType object before ++ .blank :: graphSteps graphType graph)).depth = 1
  /-- The object ends outside of all blocks. -/
  ends : (Writer.run (steps graphType object tree)).depth = 0
  /-- Each field lists the destinations of its graph, with commas between them. -/
  destinations : ∀ graph ∈ tree.graphs,
    ListsOnly "destinations = mapOf(" (graph.entries.map entry) (graphSteps graphType graph)
  /-- A field has a list of nested graphs exactly if it is that of the root and there are any. -/
  nested : ∀ graph ∈ tree.graphs,
    .opens "nestedNavGraphs = listOf(" ∈ graphSteps graphType graph ↔
      graph = tree.root ∧ tree.nested ≠ []
  /-- That list names the fields of the nested graphs, with commas between them. -/
  nested_listed : tree.nested ≠ [] → ListsOnly "nestedNavGraphs = listOf("
    (tree.nested.map (·.identifier)) (graphSteps graphType tree.root)

/-- The text of a declaration is what is written by its steps. -/
theorem finish_run_steps (graphType object : String) (tree : GraphTree) :
    (Writer.run (steps graphType object tree)).finish = (fragment graphType object tree).text := by
  -- The last character is a brace, so only the line feed behind it is dropped.
  obtain ⟨front, split⟩ :=
    Layout.render_append_closes (upTo graphType object tree.graphs) "\x7d"
  have last : (Layout.render (steps graphType object tree)).toList.getLast? = some '\x7d' := by
    have whole : steps graphType object tree =
        upTo graphType object tree.graphs ++ [.closes "\x7d"] := rfl
    rw [whole, split, String.toList_append, List.getLast?_append]
    rfl
  exact Writer.finish_run last (by decide)

/-- Behind the fields of some graphs, only the block of the object is open. -/
theorem blocksAfter_upTo (graphType object : String) (graphs : List NavGraph) :
    blocksAfter [] (upTo graphType object graphs) = ["object " ++ object ++ " \x7b"] :=
  -- The fields leave open what was open in front of them.
  ((Balanced.flatMap (balanced_field graphType) graphs).fits _).2

/-- A tree lists nested graphs at its root, and only if it has any. -/
theorem listsNested_graphTreeOf_iff {destinations : List Destination} {graph : NavGraph}
    (member : graph ∈ (graphTreeOf destinations).graphs) :
    ListsNested graph ↔
      graph = (graphTreeOf destinations).root ∧ (graphTreeOf destinations).nested ≠ [] := by
  -- The only graph that is a root lists the fields of all others.
  have root : graph.isRoot = true ↔ graph = (graphTreeOf destinations).root := by
    have only : graph ∈ (graphTreeOf destinations).graphs.filter NavGraph.isRoot ↔
        graph = (graphTreeOf destinations).root := by
      rw [filter_isRoot_graphTreeOf, List.mem_singleton]
    rw [← only, List.mem_filter, and_iff_right member]
  rw [ListsNested, root]
  refine and_congr_right ?_
  rintro rfl
  simp [graphTreeOf, graphAt]

/-- The fields that are listed in a tree are called after routes, without spaces. -/
theorem head?_ne_space_of_mem_nested {destinations : List Destination} {graph : NavGraph}
    (member : graph ∈ (graphTreeOf destinations).graphs) :
    ∀ name ∈ graph.nested, name.toList.head? ≠ some ' ' := by
  intro name listed
  have spaceless : ' ' ∉ name.toList := by
    simp only [graphTreeOf, GraphTree.graphs, List.mem_append, List.mem_map,
      List.mem_singleton] at member
    rcases member with ⟨route, -, rfl⟩ | rfl
    · exact absurd listed List.not_mem_nil
    · -- The root graph lists identifiers.
      obtain ⟨route, -, rfl⟩ := List.mem_map.1 listed
      exact Identifier.not_mem_ofRoute (by decide) route
  exact fun first => spaceless (List.mem_of_head? first)

/--
The declaration of assembled graphs is nested as its brackets say.

The depth of the writer stops at zero, so a bracket too many would not be noticed while it writes:
it is never closed more than was opened, whatever the graphs and the names given to the type and
the object are.
-/
theorem nesting_of_assemble {destinations : List Destination} {tree : GraphTree}
    (assembled : assemble destinations = .ok tree) (graphType object : String) :
    Nesting graphType object tree := by
  obtain ⟨-, -, rfl⟩ := assemble_eq_ok_iff.1 assembled
  obtain ⟨fits, returns⟩ := (balanced_steps graphType object (graphTreeOf destinations)).fits []
  -- Each step of balanced code fits into the blocks that are open in front of it.
  have pairs : ∀ front text back,
      steps graphType object (graphTreeOf destinations) = front ++ .closes text :: back →
      ∃ opening outer, blocksAfter [] front = opening :: outer ∧ Pairs opening text := by
    intro front text back split
    rw [split] at fits
    exact (Layout.fits_append.1 fits).2.1
  refine
    { text := finish_run_steps graphType object _
      laidOut := fun front back split => by rw [split, Layout.lines_append, Writer.run_eq]
      depth := fun front back _ => Writer.depth_run front
      closes := ?closes
      pairs := pairs
      indent := ?indent
      fields := ?fields
      ends := by rw [Writer.depth_run, returns]; rfl
      destinations := fun graph _ => listsOnly_entries graphType graph
      nested := fun graph member =>
        opens_nested_mem_graphSteps_iff.trans (listsNested_graphTreeOf_iff member)
      nested_listed := ?listed }
  case closes =>
    -- One block fewer is open behind the line.
    intro front text back split
    obtain ⟨opening, outer, found, -⟩ := pairs front text back split
    rw [Writer.depth_run, Writer.depth_run, Layout.blocksAfter_append, found]
    rfl
  case indent =>
    intro front step back split visible
    have member : step ∈ steps graphType object (graphTreeOf destinations) := by simp [split]
    exact ⟨head?_ne_space (fun graph listed => head?_ne_space_of_mem_nested listed) step member,
      Writer.out_run_concat front visible⟩
  case fields =>
    intro before graph after split
    have behind : upTo graphType object before ++ .blank :: graphSteps graphType graph =
        upTo graphType object (before ++ [graph]) := by simp [upTo]
    refine ⟨?_, ?_, ?_⟩
    · refine ⟨after.flatMap (fun graph => .blank :: graphSteps graphType graph) ++
        [.closes "\x7d"], ?_⟩
      simp [steps, upTo, split]
    · rw [Writer.depth_run, Layout.blocksAfter_append, blocksAfter_upTo]
      rfl
    · rw [behind, Writer.depth_run, blocksAfter_upTo]
      rfl
  case listed =>
    intro some
    have root : (graphTreeOf destinations).root ∈ (graphTreeOf destinations).graphs :=
      List.mem_append_right _ List.mem_cons_self
    have names : (graphTreeOf destinations).root.nested =
        (graphTreeOf destinations).nested.map (·.identifier) := by simp [graphTreeOf, graphAt]
    rw [← names]
    exact listsOnly_nested graphType ((listsNested_graphTreeOf_iff root).2 ⟨rfl, some⟩)

/-- Three graphs with an annotation, and names that end in brackets of their own. -/
theorem nesting_of_assemble_three_graphs :
    let destinations : List Destination :=
      [{ simpleName := "Home", route := "home", isStart := true },
        { simpleName := "Settings", route := "s", graphRoute := "settings_graph", isStart := true },
        { simpleName := "Detail", route := "detail/\x7bid\x7d" },
        { simpleName := "Help", route := "h", graphRoute := "help_graph", isStart := true,
          optIns := NameSet.ofList ["Beta"] }]
    ∃ tree, assemble destinations = .ok tree ∧ Nesting "Graph(" "Graphs \x7b" tree ∧
      (Writer.run ((steps "Graph(" "Graphs \x7b" tree).take 6)).depth = 3 ∧
      [.line "\"home\" to Home,", .line "\"detail/\x7bid\x7d\" to Detail", .closes "),",
        .opens "nestedNavGraphs = listOf(", .line "settingsGraph,", .line "helpGraph",
        .closes ")", .closes ")", .closes "\x7d"] <:+ steps "Graph(" "Graphs \x7b" tree := by
  -- Six steps in, the writer stands inside of the first graph's destinations.
  intro destinations
  have assembled : assemble destinations = .ok (graphTreeOf destinations) := by decide +kernel
  exact ⟨_, assembled, nesting_of_assemble assembled _ _, by decide +kernel, by decide +kernel⟩

end Declaration

end Navigation
