import Navigation.Proofs.Declaration

/-! Routes in a declaration: each is in a literal that ends where it was closed. -/

namespace Navigation.Declaration

open Literal (Encloses quote)

/-- Each step of a graph's field is somewhere in the declaration. -/
theorem exists_text_eq (graphType object : String) {tree : GraphTree} {graph : NavGraph}
    (listed : graph ∈ tree.graphs) {step : Layout.Step}
    (member : step ∈ graphSteps graphType graph) :
    ∃ front back, (fragment graphType object tree).text = front ++ step.text ++ back := by
  -- The field stands between the first line and the last, behind a blank line of its own.
  have field : step ∈ tree.graphs.flatMap fun graph => .blank :: graphSteps graphType graph :=
    List.mem_flatMap.2 ⟨graph, listed, List.mem_cons_of_mem _ member⟩
  have declared : step ∈ steps graphType object tree := by
    rw [steps]
    exact List.mem_append_left _ (List.mem_cons_of_mem _ field)
  exact Layout.exists_render_eq declared

/-- The route of each graph is a literal in the declaration, on a line of its own. -/
theorem exists_text_eq_route (graphType object : String) {tree : GraphTree} {graph : NavGraph}
    (listed : graph ∈ tree.graphs) :
    ∃ front back, (fragment graphType object tree).text =
      front ++ "route = " ++ (quote graph.route ++ ("," ++ back)) := by
  -- The route has a line of its own in the field of its graph.
  have field : .line ("route = " ++ quote graph.route ++ ",") ∈ graphSteps graphType graph := by
    simp [graphSteps]
  obtain ⟨front, back, whole⟩ := exists_text_eq graphType object listed field
  refine ⟨front, back, whole.trans ?_⟩
  simp only [Layout.Step.text, String.append_assoc]

/-- The route of each destination is a literal in the declaration, in front of its name. -/
theorem exists_text_eq_entry (graphType object : String) {tree : GraphTree} {graph : NavGraph}
    (listed : graph ∈ tree.graphs) {destination : GraphEntry}
    (member : destination ∈ graph.entries) :
    ∃ front back, (fragment graphType object tree).text =
      front ++ (quote destination.route ++ (" to " ++ destination.simpleName ++ back)) := by
  obtain ⟨ending, item⟩ := Layout.exists_mem_listed (List.mem_map_of_mem (f := entry) member)
  have field : .line (entry destination ++ ending) ∈ graphSteps graphType graph := by
    simp [graphSteps, item]
  obtain ⟨front, back, whole⟩ := exists_text_eq graphType object listed field
  -- What ends the line, if anything does, is behind the name.
  refine ⟨front, ending ++ back, whole.trans ?_⟩
  simp only [Layout.Step.text, entry, String.append_assoc]

open Literal (ReadsAs)

/--
A literal is read back as its value, whatever stands behind it.

The routes of a declaration are in such literals, so none of them can close its literal early or
open a string template in it.
-/
theorem literals_read_back :
    (∀ value, ∃ inside, (quote value).toList = '"' :: (inside ++ ['"']) ∧
      Encloses inside value.toList) ∧
    Function.Injective quote ∧
    ∀ graphType object (tree : GraphTree), ∀ graph ∈ tree.graphs,
      (∃ front rest back,
        (fragment graphType object tree).text = front ++ "route = " ++ (quote graph.route ++ rest) ∧
        rest = "," ++ back ∧ ReadsAs (quote graph.route ++ rest) graph.route rest) ∧
      ∀ destination ∈ graph.entries, ∃ front rest back,
        (fragment graphType object tree).text = front ++ (quote destination.route ++ rest) ∧
        rest = " to " ++ destination.simpleName ++ back ∧
          ReadsAs (quote destination.route ++ rest) destination.route rest := by
  refine ⟨fun value => ⟨_, Literal.toList_quote value, Literal.encloses_escaped value.toList⟩,
    Literal.quote_injective, fun graphType object tree graph listed => ⟨?_, ?_⟩⟩
  · -- What is behind the literal does not matter to its reader, so it is whatever follows.
    obtain ⟨front, back, whole⟩ := exists_text_eq_route graphType object listed
    exact ⟨front, _, back, whole, rfl, Literal.readsAs_quote_append _ _⟩
  · intro destination member
    obtain ⟨front, back, whole⟩ := exists_text_eq_entry graphType object listed member
    exact ⟨front, _, back, whole, rfl, Literal.readsAs_quote_append _ _⟩

/-- A route that ends in a backslash behind a quote, where a destination's has a dollar as well. -/
theorem literals_read_back_of_hostile_routes :
    let destination : GraphEntry := ⟨"\\$x\n\"", "A"⟩
    let graph : NavGraph :=
      { route := "a\"\\", identifier := "a", start := "A", entries := [destination],
        nested := [], optIns := NameSet.empty }
    let tree : GraphTree := ⟨[], graph⟩
    graph ∈ tree.graphs ∧ destination ∈ graph.entries ∧
    (∃ inside, Literal.lex? (quote graph.route).toList = some (inside, []) ∧
      Literal.unescape inside = some graph.route.toList) ∧
    (∃ front rest back,
      (fragment "Type" "Graphs" tree).text = front ++ "route = " ++ (quote graph.route ++ rest) ∧
      rest = "," ++ back ∧ ReadsAs (quote graph.route ++ rest) graph.route rest) ∧
    ∃ front rest back,
      (fragment "Type" "Graphs" tree).text = front ++ (quote destination.route ++ rest) ∧
      rest = " to " ++ destination.simpleName ++ back ∧
        ReadsAs (quote destination.route ++ rest) destination.route rest := by
  -- Both routes hold marks that would end a literal if they were not escaped.
  intro destination graph tree
  obtain ⟨enclosed, -, declared⟩ := literals_read_back
  have listed : graph ∈ tree.graphs := List.mem_append_right _ List.mem_cons_self
  have member : destination ∈ graph.entries := List.mem_cons_self
  obtain ⟨route, entries⟩ := declared "Type" "Graphs" tree graph listed
  obtain ⟨inside, literal, encloses⟩ := enclosed graph.route
  refine ⟨listed, member, ⟨inside, ?_, encloses.reads⟩, route, entries destination member⟩
  rw [literal]
  exact encloses.ends []

end Navigation.Declaration
