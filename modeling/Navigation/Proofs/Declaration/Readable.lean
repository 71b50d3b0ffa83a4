import Navigation.Proofs.Declaration.Nesting
import Navigation.Proofs.Literal
import Navigation.Proofs.NameSet

/-! The declaration of graphs can be read back: it differs wherever the graphs differ. -/

namespace Navigation

/-- Whether the names in a graph leave its declaration in the lines it is laid out in. -/
structure NavGraph.Readable (graph : NavGraph) : Prop where
  optIns : ∀ name ∈ graph.optIns.names, '\n' ∉ name.toList
  identifier : ' ' ∉ graph.identifier.toList
  start : '\n' ∉ graph.start.toList
  entries : ∀ entry ∈ graph.entries, '\n' ∉ entry.simpleName.toList
  nested : ∀ name ∈ graph.nested, '\n' ∉ name.toList
  /-- Only the root graph's declaration says what is nested in it. -/
  nested_root : graph.isRoot = false → graph.nested = []

namespace Declaration

open Layout (indent row written)

/-- An entry can be told from others, since its route says where it ends. -/
theorem entry_injective : Function.Injective entry := by
  -- What stands behind the literal of the route is the same word for all, and then the name.
  intro destination other same
  have texts := congrArg String.toList same
  simp only [entry, Literal.quote, String.toList_append, String.toList_ofList,
    List.append_assoc] at texts
  obtain ⟨routes, behind⟩ := Literal.delimited_encode trivial trivial texts
  have names := List.append_cancel_left behind
  cases destination
  cases other
  rw [String.toList_inj] at routes names
  exact congr (congrArg GraphEntry.mk routes) names

/-- An entry is on one line if its name is. -/
theorem feed_not_mem_entry {destination : GraphEntry}
    (name : '\n' ∉ destination.simpleName.toList) : '\n' ∉ (entry destination).toList := by
  -- A line feed in the route has an escape, so it stands in no literal.
  simp only [entry, Literal.quote, String.toList_append, String.toList_ofList, List.mem_append,
    not_or]
  exact ⟨⟨Literal.feed_not_mem_encode _, by decide⟩, name⟩

/-- What a field has behind its entries. -/
def ending (graph : NavGraph) : List Char :=
  written 3 (nestedSteps graph ++ [.closes ")", .closes ")"])

/-- A field that lists nested graphs goes on behind its entries. -/
theorem ending_of_nested {graph : NavGraph} (root : graph.isRoot = true)
    (nested : graph.nested ≠ []) :
    ending graph = row 2 ")," ++ (row 2 "nestedNavGraphs = listOf(" ++
      (written 3 (Layout.listed graph.nested) ++ (row 2 ")" ++ row 1 ")"))) := by
  -- The destinations are closed before the nested graphs are listed.
  rw [ending, nestedSteps_of_lists ⟨root, nested⟩]
  simp [Layout.written_append]

/-- Any other field closes its blocks there. -/
theorem ending_of_lone {graph : NavGraph} (lone : graph.nested = []) :
    ending graph = row 2 ")" ++ row 1 ")" := by
  -- Nothing stands between the two closing lines.
  rw [ending, nestedSteps_of_lone fun lists => lists.2 lone]
  simp

/-- The characters of a field, with the empty line in front of it. -/
theorem written_field (graphType : String) (graph : NavGraph) :
    written 1 (.blank :: graphSteps graphType graph) = '\n' ::
      ((graph.optIns.names.map ("@" ++ ·)).flatMap (row 1) ++
        (row 1 ("val " ++ graph.identifier ++ " = " ++ graphType ++ "(") ++
          (row 2 ("route = " ++ Literal.quote graph.route ++ ",") ++
            (row 2 ("startDestination = " ++ graph.start ++ ",") ++
              (row 2 "destinations = mapOf(" ++
                (written 3 (Layout.listed (graph.entries.map entry)) ++ ending graph)))))) := by
  -- The steps are written one after the other, each at the depth those before it have led to.
  simp only [graphSteps, annotations_eq, List.append_assoc, Layout.written_blank,
    Layout.written_append 1 (List.map _ _), Layout.depthAfter_lines, Layout.written_lines,
    List.cons_append, List.nil_append, Layout.written_opens, Layout.written_line,
    Layout.written_append 3, Layout.depthAfter_listed, ending]

/-- A field says what it is called, behind a keyword and in front of a blank. -/
theorem delimited_name (graphType : String) : Delimited (' ' ∉ ·.toList)
    fun identifier => row 1 ("val " ++ identifier ++ " = " ++ graphType ++ "(") := by
  -- The name ends at a blank, and the type behind it is the same in all fields.
  have shape : (fun identifier => row 1 ("val " ++ identifier ++ " = " ++ graphType ++ "(")) =
      fun identifier => ((indent 1).toList ++ "val ".toList) ++
        ((identifier.toList ++ [' ']) ++ ("= ".toList ++ graphType.toList ++ "(\n".toList)) := by
    funext identifier
    simp [row]
  rw [shape]
  exact ((Delimited.upTo ' ').of_injective fun _ _ => String.toList_injective).framed _ _

/-- A field says which route its graph is at, whatever the route's characters are. -/
theorem delimited_route :
    Delimited (fun _ => True) fun route => row 2 ("route = " ++ Literal.quote route ++ ",") := by
  -- The literal says itself where it ends.
  have shape : (fun route => row 2 ("route = " ++ Literal.quote route ++ ",")) =
      fun route => ((indent 2).toList ++ "route = ".toList) ++
        (Literal.encode route.toList ++ ",\n".toList) := by
    funext route
    simp [row, Literal.quote]
  rw [shape]
  exact (Literal.delimited_encode.of_injective fun _ _ => String.toList_injective).framed _ _

/-- A field says which destination its graph opens with. -/
theorem delimited_start : Delimited ('\n' ∉ ·.toList)
    fun start => row 2 ("startDestination = " ++ start ++ ",") := by
  -- The whole line is read first; the comma at its end is not part of the name.
  intro start start' fit fit' rest other same
  have injective : Function.Injective fun start => "startDestination = " ++ start ++ "," :=
    fun _ _ same => (String.append_right_inj _).1 ((String.append_left_inj _).1 same)
  have plain {start : String} (fit : '\n' ∉ start.toList) :
      '\n' ∉ ("startDestination = " ++ start ++ ",").toList := by
    simpa [String.toList_append] using fit
  exact (Layout.delimited_row 2).of_injective injective (plain fit) (plain fit') same

/-- What stands behind the entries is indented less than they are. -/
theorem not_indent_prefix_ending (graph : NavGraph) (rest : List Char) :
    ¬ (indent 3).toList <+: ending graph ++ rest := by
  -- With nested graphs or without, the next line closes the map of the entries.
  rw [ending, nestedSteps]
  split <;> simp [row, indent, List.replicate]

/-- A field that lists nested graphs differs from one that lists none. -/
theorem ending_lone_ne {graph other : NavGraph} (lone : graph.nested = [])
    (root : other.isRoot = true) (nested : other.nested ≠ []) (rest rest' : List Char) :
    ending graph ++ rest ≠ ending other ++ rest' := by
  -- A comma stands behind the entries where a line feed would.
  rw [ending_of_lone lone, ending_of_nested root nested]
  simp [row]

/-- A field says which graphs are nested in the root graph. -/
theorem eq_of_ending {graph other : NavGraph} (fit : graph.Readable) (fit' : other.Readable)
    {rest rest' : List Char} (same : ending graph ++ rest = ending other ++ rest') :
    graph.nested = other.nested ∧ rest = rest' := by
  -- Where graphs are nested, the field is that of a root graph and lists them.
  have root {graph : NavGraph} (fit : graph.Readable) (nested : graph.nested ≠ []) :
      graph.isRoot = true := by
    by_contra other
    exact nested (fit.nested_root (Bool.eq_false_iff.2 other))
  by_cases lone : graph.nested = []
  · by_cases lone' : other.nested = []
    · rw [ending_of_lone lone, ending_of_lone lone'] at same
      exact ⟨lone.trans lone'.symm, List.append_cancel_left same⟩
    · exact absurd same (ending_lone_ne lone (root fit' lone') lone' rest rest')
  · by_cases lone' : other.nested = []
    · exact absurd same.symm (ending_lone_ne lone' (root fit lone) lone rest' rest)
    · rw [ending_of_nested (root fit lone) lone, ending_of_nested (root fit' lone') lone'] at same
      simp only [List.append_assoc, List.append_cancel_left_eq] at same
      -- The list ends at a line that is indented less, and all behind it is fixed.
      have stop (rest : List Char) : ¬ (indent 3).toList <+: row 2 ")" ++ rest := by
        simp [row, indent, List.replicate]
      obtain ⟨nested, ends⟩ := Layout.eq_of_written_listed fit.nested fit'.nested
        (stop _) (stop _) same
      simp only [List.append_cancel_left_eq] at ends
      exact ⟨nested, ends⟩

/-- The line that declares a field is not that of an annotation. -/
theorem not_sign_prefix_name (text : String) (rest : List Char) :
    ¬ (indent 1).toList ++ ['@'] <+: row 1 ("val " ++ text) ++ rest := by
  -- A name's row goes on with a letter where an annotation's has the sign.
  simp [row]

/-- A field says which annotations stand above it. -/
theorem eq_of_annotations {names others : List String} {rest rest' : List Char}
    (fits : ∀ name ∈ names, '\n' ∉ name.toList) (fits' : ∀ name ∈ others, '\n' ∉ name.toList)
    (stop : ¬ (indent 1).toList ++ ['@'] <+: rest) (stop' : ¬ (indent 1).toList ++ ['@'] <+: rest')
    (same : (names.map ("@" ++ ·)).flatMap (row 1) ++ rest =
      (others.map ("@" ++ ·)).flatMap (row 1) ++ rest') : names = others ∧ rest = rest' := by
  -- Every annotation is announced by a sign that the line behind them does not have.
  have injective : Function.Injective ("@" ++ ·) := fun _ _ => (String.append_right_inj "@").1
  have plain {names : List String} (fits : ∀ name ∈ names, '\n' ∉ name.toList) :
      ∀ name ∈ names, '\n' ∉ ("@" ++ name).toList := by
    intro name member
    simpa [String.toList_append] using fits name member
  have announced (name : String) : (indent 1).toList ++ ['@'] <+: row 1 ("@" ++ name) := by
    simp [row]
  rw [List.flatMap_map, List.flatMap_map] at same
  exact ((Layout.delimited_row 1).of_injective injective).list announced (plain fits)
    (plain fits') stop stop' same

/-- A field says everything about its graph, and where it ends. -/
theorem delimited_field (graphType : String) :
    Delimited NavGraph.Readable fun graph => written 1 (.blank :: graphSteps graphType graph) := by
  intro graph other fit fit' rest rest' same
  simp only [written_field, List.cons_append, List.append_assoc, List.cons.injEq,
    true_and] at same
  -- The parts are read one behind the other, each telling where the next one starts.
  have stop (identifier : String) (rest : List Char) : ¬ (indent 1).toList ++ ['@'] <+:
      row 1 ("val " ++ identifier ++ " = " ++ graphType ++ "(") ++ rest := by
    simp only [String.append_assoc]
    exact not_sign_prefix_name _ rest
  obtain ⟨optIns, afterOptIns⟩ :=
    eq_of_annotations fit.optIns fit'.optIns (stop _ _) (stop _ _) same
  obtain ⟨identifier, afterName⟩ :=
    delimited_name graphType fit.identifier fit'.identifier afterOptIns
  obtain ⟨route, afterRoute⟩ := delimited_route trivial trivial afterName
  obtain ⟨start, afterStart⟩ := delimited_start fit.start fit'.start afterRoute
  have plain {graph : NavGraph} (fit : graph.Readable) :
      ∀ item ∈ graph.entries.map entry, '\n' ∉ item.toList := by
    intro item member
    obtain ⟨destination, listed, rfl⟩ := List.mem_map.1 member
    exact feed_not_mem_entry (fit.entries destination listed)
  obtain ⟨entries, afterEntries⟩ := Layout.eq_of_written_listed (plain fit) (plain fit')
    (not_indent_prefix_ending graph rest) (not_indent_prefix_ending other rest')
    (List.append_cancel_left afterStart)
  obtain ⟨nested, ends⟩ := eq_of_ending fit fit' afterEntries
  -- All parts of the two graphs agree, and so do the texts behind their fields.
  refine ⟨?_, ends⟩
  have members : graph.entries = other.entries :=
    List.map_injective_iff.2 entry_injective entries
  have sets : graph.optIns = other.optIns := NameSet.eq_of_names optIns
  cases graph
  cases other
  simp only at route identifier start members nested sets
  subst route identifier start members nested sets
  rfl

/-- A field ends at the depth it starts at. -/
theorem depthAfter_field (graphType : String) (graph : NavGraph) :
    Layout.depthAfter 1 (.blank :: graphSteps graphType graph) = 1 :=
  (balanced_field graphType graph).depthAfter 1

/-- The declaration is its first line, the fields of its graphs, and its last line. -/
theorem toList_fragment (graphType object : String) (tree : GraphTree) :
    (fragment graphType object tree).text.toList ++ ['\n'] =
      row 0 ("object " ++ object ++ " \x7b") ++
        (tree.graphs.flatMap (fun graph => written 1 (.blank :: graphSteps graphType graph)) ++
          row 0 "\x7d") := by
  -- The text lacks the line feed that each of the rows ends in.
  have text : (fragment graphType object tree).text =
      Layout.render (steps graphType object tree) := rfl
  rw [text, ← Layout.written_eq_render (by simp [steps, Layout.lines]), steps, List.cons_append,
    Layout.written_opens, Layout.written_flatMap (depthAfter_field graphType),
    Layout.written_closes, Layout.written_nil, List.append_nil]

/-- Declarations of readable graphs are those of different graphs if they differ at all. -/
theorem graphs_eq_of_fragment {graphType object : String} {tree other : GraphTree}
    (fits : ∀ graph ∈ tree.graphs, graph.Readable) (fits' : ∀ graph ∈ other.graphs, graph.Readable)
    (same : (fragment graphType object tree).text = (fragment graphType object other).text) :
    tree.graphs = other.graphs := by
  -- Each field is announced by an empty line, and the last line is not empty.
  have texts : (fragment graphType object tree).text.toList ++ ['\n'] =
      (fragment graphType object other).text.toList ++ ['\n'] := by rw [same]
  rw [toList_fragment, toList_fragment, List.append_cancel_left_eq] at texts
  have stop : ¬ ['\n'] <+: row 0 "\x7d" := by decide
  exact ((delimited_field graphType).list (fun graph => by simp) fits fits' stop stop texts).1

end Declaration

/-- Whether no simple name and no annotation in a tree has a line feed. -/
def GraphTree.OneLine (tree : GraphTree) : Prop :=
  ∀ graph ∈ tree.graphs, (∀ entry ∈ graph.entries, '\n' ∉ entry.simpleName.toList) ∧
    ∀ name ∈ graph.optIns.names, '\n' ∉ name.toList

instance (tree : GraphTree) : Decidable tree.OneLine :=
  inferInstanceAs (Decidable (∀ graph ∈ tree.graphs, _ ∧ _))

/-- The graph at a route is readable if its names are, and if it nests others only at the root. -/
theorem readable_graphAt {destinations : List Destination} {route : String} {nested : List String}
    (names : ∀ entry ∈ (graphAt destinations nested route).entries,
      '\n' ∉ entry.simpleName.toList)
    (optIns : ∀ name ∈ (graphAt destinations nested route).optIns.names, '\n' ∉ name.toList)
    (identifiers : ∀ name ∈ nested, '\n' ∉ name.toList)
    (lone : route ≠ rootRoute → nested = []) : (graphAt destinations nested route).Readable := by
  refine
    { optIns := optIns
      identifier := Identifier.not_mem_ofRoute (by decide) route
      start := ?start
      entries := names
      nested := identifiers
      nested_root := fun other => lone (by simpa [NavGraph.isRoot, graphAt] using other) }
  case start =>
    -- The start is one of the members, or there is none and its name is empty.
    simp only [graphAt]
    cases found : (membersAt route destinations).find? (·.isStart) with
    | none => simp
    | some first =>
      refine names ⟨first.route, first.simpleName⟩ ?_
      exact List.mem_map.2 ⟨first, List.mem_of_find?_eq_some found, rfl⟩

/-- The graphs of an assembled tree are readable if none of their names has a line feed. -/
theorem readable_of_assemble {destinations : List Destination} {tree : GraphTree}
    (assembled : assemble destinations = .ok tree) (plain : tree.OneLine) :
    ∀ graph ∈ tree.graphs, graph.Readable := by
  obtain ⟨-, -, rfl⟩ := assemble_eq_ok_iff.1 assembled
  intro graph member
  obtain ⟨names, optIns⟩ := plain graph member
  simp only [graphTreeOf, GraphTree.graphs, List.mem_append, List.mem_map,
    List.mem_singleton] at member
  rcases member with ⟨route, listed, rfl⟩ | rfl
  · exact readable_graphAt names optIns (by simp) fun _ => rfl
  · -- The root graph lists the fields of the others, which are identifiers.
    refine readable_graphAt names optIns (fun name inside => ?_) fun other => absurd rfl other
    obtain ⟨route, -, rfl⟩ := List.mem_map.1 inside
    exact Identifier.not_mem_ofRoute (by decide) route

/--
The declaration of assembled graphs determines the graphs.

Quotes, backslashes and line feeds in routes cannot make two trees look the same.
-/
theorem Declaration.tree_eq_of_text_eq {destinations others : List Destination}
    {tree other : GraphTree} (assembled : assemble destinations = .ok tree)
    (assembled' : assemble others = .ok other) (plain : tree.OneLine) (plain' : other.OneLine)
    (graphType object : String)
    (same : (fragment graphType object tree).text = (fragment graphType object other).text) :
    tree = other := by
  have graphs : tree.nested ++ [tree.root] = other.nested ++ [other.root] :=
    graphs_eq_of_fragment (readable_of_assemble assembled plain)
      (readable_of_assemble assembled' plain') same
  -- The last graph of each tree is its root.
  obtain ⟨nested, root⟩ := List.append_inj' graphs rfl
  exact congr (congrArg GraphTree.mk nested) (List.head_eq_of_cons_eq root)

/-- Two orders of destinations have the same declaration, and so the same graphs. -/
theorem Declaration.tree_eq_of_text_eq_of_interleaved :
    let home : Destination := { simpleName := "Home", route := "say \"$a\\b\"\n", isStart := true }
    let detail : Destination := { simpleName := "Detail", route := "detail/\x7bid\x7d" }
    let settings : Destination :=
      { simpleName := "Settings", route := "s", graphRoute := "settings_graph", isStart := true }
    let one := [home.withOptIn "Beta", settings, detail]
    let two := [settings.withSource "Settings.kt", home, detail.withOptIn "Beta"]
    ∃ tree other, assemble one = .ok tree ∧ assemble two = .ok other ∧ tree = other := by
  -- The texts are computed and compared, but the trees are not.
  intro home detail settings one two
  have assembled : assemble one = .ok (graphTreeOf one) := by decide +kernel
  have assembled' : assemble two = .ok (graphTreeOf two) := by decide +kernel
  refine ⟨_, _, assembled, assembled', ?_⟩
  exact tree_eq_of_text_eq assembled assembled' (by decide +kernel) (by decide +kernel)
    "NavGraph" "NavGraphs" (by decide +kernel)

/-- A line feed in a name can make one destination look like two. -/
example :
    let home : Destination := { simpleName := "Home", route := "home", isStart := true }
    let one := [home, { simpleName := "A,\n            \"b\" to B", route := "a" }]
    let two := [home, { simpleName := "A", route := "a" }, { simpleName := "B", route := "b" }]
    assemble one = .ok (graphTreeOf one) ∧ assemble two = .ok (graphTreeOf two) ∧
      graphTreeOf one ≠ graphTreeOf two ∧
        Declaration.fragment "Graph" "Graphs" (graphTreeOf one) =
          Declaration.fragment "Graph" "Graphs" (graphTreeOf two) := by
  decide +kernel

end Navigation
