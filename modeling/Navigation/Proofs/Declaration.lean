import Navigation.Declaration
import Navigation.Proofs.Layout
import Navigation.Proofs.Literal

/-! The declaration of graphs makes no token out of texts that have none. -/

namespace Navigation

open Token (find? separates)

/-- Whether no text that a graph brings into its declaration has a token. -/
structure NavGraph.Free (graph : NavGraph) : Prop where
  identifier : '[' ∉ graph.identifier.toList
  route : find? graph.route.toList = none
  start : find? graph.start.toList = none
  entries : ∀ entry ∈ graph.entries,
    find? entry.route.toList = none ∧ find? entry.simpleName.toList = none
  nested : ∀ name ∈ graph.nested, '[' ∉ name.toList
  optIns : ∀ name ∈ graph.optIns, find? name.toList = none

namespace Declaration

open Layout (Step)

/-- A text stays without tokens when it is put between texts that open none. -/
theorem find?_framed {before text after : String} {c : Char} {rest : List Char}
    (free : find? text.toList = none) (front : '[' ∉ before.toList)
    (back : after.toList = c :: rest) (apart : separates c = true) (absent : '[' ∉ rest) :
    find? (before ++ text ++ after).toList = none := by
  -- What stands in front opens nothing, and what stands behind starts with a separator.
  rw [String.toList_append, String.toList_append, back, List.append_assoc,
    Token.find?_append_of_not_mem front]
  exact (Token.find?_append_separator apart _ _).2 ⟨free, Token.find?_of_not_mem absent⟩

/-- A quoted text has a token only if the text has one. -/
theorem find?_quote {text : String} (free : find? text.toList = none) :
    find? (Literal.quote text).toList = none := by
  -- Quoting puts marks around the encoded text.
  rw [Literal.quote, String.toList_ofList]
  exact Literal.find?_encode free

/-- An entry of a map has a token only if its route or its name has one. -/
theorem find?_entry {destination : GraphEntry} (route : find? destination.route.toList = none)
    (name : find? destination.simpleName.toList = none) :
    find? (entry destination).toList = none := by
  -- The blank between the two separates them.
  have between : (" to " : String).toList = ' ' :: "to ".toList := rfl
  rw [entry, String.toList_append, String.toList_append, between, List.append_assoc,
    List.cons_append]
  refine (Token.find?_append_separator (by decide) _ _).2 ⟨find?_quote route, ?_⟩
  exact (Token.find?_append_of_not_mem (by decide) _).2 name

/-- Listed items have a token only if one of them has. -/
theorem find?_of_mem_listed {items : List String}
    (free : ∀ item ∈ items, find? item.toList = none) :
    ∀ step ∈ Layout.listed items, find? step.text.toList = none := by
  intro step member
  obtain ⟨item, listed, rfl | rfl⟩ := Layout.mem_listed member
  · exact free item listed
  · -- A comma separates the item from the end of its line.
    have comma : ("," : String).toList = [','] := rfl
    show find? (item ++ ",").toList = none
    rw [String.toList_append, comma]
    exact (Token.find?_append_separator (by decide) _ _).2 ⟨free item listed, rfl⟩

/-- Nothing in the list of nested graphs has a token. -/
theorem find?_of_mem_nestedSteps {graph : NavGraph} (free : graph.Free) :
    ∀ step ∈ nestedSteps graph, find? step.text.toList = none := by
  -- There are two lines of their own, and one for each nested graph.
  rw [nestedSteps]
  split
  · refine List.forall_mem_append.2 ⟨by decide, find?_of_mem_listed ?_⟩
    exact fun name member => Token.find?_of_not_mem (free.nested name member)
  · simp

/-- Nothing in the field of a graph has a token. -/
theorem find?_of_mem_graphSteps {graphType : String} {graph : NavGraph} (free : graph.Free)
    (type : find? graphType.toList = none) :
    ∀ step ∈ graphSteps graphType graph, find? step.text.toList = none := by
  -- The steps are taken in their order: annotations, head, entries, nested graphs, end.
  rw [graphSteps]
  refine List.forall_mem_append.2 ⟨List.forall_mem_append.2 ⟨List.forall_mem_append.2
    ⟨List.forall_mem_append.2 ⟨?annotations, ?head⟩, ?entries⟩, find?_of_mem_nestedSteps free⟩,
    by decide⟩
  case annotations =>
    -- The sign in front of an annotation opens nothing.
    intro step member
    obtain ⟨name, listed, rfl⟩ := List.mem_map.1 member
    show find? ("@" ++ name).toList = none
    rw [String.toList_append]
    exact (Token.find?_append_of_not_mem (by decide) _).2 (free.optIns name listed)
  case head =>
    -- Each text of the graph stands between fixed texts, the one behind starting with a separator.
    have field : '[' ∉ ("val " ++ graph.identifier ++ " = ").toList := by
      simp [String.toList_append, free.identifier]
    have value : find? ("route = " ++ Literal.quote graph.route ++ ",").toList = none :=
      find?_framed (find?_quote free.route) (by decide) rfl (by decide) (by decide)
    have start : find? ("startDestination = " ++ graph.start ++ ",").toList = none :=
      find?_framed free.start (by decide) rfl (by decide) (by decide)
    have opening : find? ("val " ++ graph.identifier ++ " = " ++ graphType ++ "(").toList = none :=
      find?_framed type field rfl (by decide) (by decide)
    have destinations : find? ("destinations = mapOf(" : String).toList = none := by decide
    simp only [List.forall_mem_cons]
    exact ⟨opening, value, start, destinations, by simp⟩
  case entries =>
    refine find?_of_mem_listed fun item member => ?_
    obtain ⟨destination, listed, rfl⟩ := List.mem_map.1 member
    exact find?_entry (free.entries destination listed).1 (free.entries destination listed).2

/--
The declaration of graphs without tokens is a sealed text.

It ends in a brace, so nothing that is put behind it can make a token either.
-/
theorem sealed_fragment {graphType object : String} {tree : GraphTree}
    (free : ∀ graph ∈ tree.graphs, graph.Free) (type : find? graphType.toList = none)
    (name : find? object.toList = none) :
    Token.Sealed (fragment graphType object tree).text.toList := by
  have opening : find? ("object " ++ object ++ " \x7b").toList = none :=
    find?_framed name (by decide) rfl (by decide) (by decide)
  -- The fields stand between the first line and the last.
  have whole : ∀ step ∈ steps graphType object tree, find? step.text.toList = none := by
    rw [steps]
    refine List.forall_mem_append.2 ⟨List.forall_mem_cons.2 ⟨opening, ?_⟩, by decide⟩
    intro step member
    obtain ⟨graph, listed, inside⟩ := List.mem_flatMap.1 member
    rcases List.mem_cons.1 inside with rfl | inside
    · rfl
    · exact find?_of_mem_graphSteps (free graph listed) type step inside
  have text : find? (Layout.render (steps graphType object tree)).toList = none :=
    Layout.find?_render whole
  -- The text in front of the brace is free as well, since the brace separates.
  obtain ⟨front, split⟩ := Layout.render_append_closes
    (.opens ("object " ++ object ++ " \x7b") ::
      tree.graphs.flatMap (fun graph => .blank :: graphSteps graphType graph)) "\x7d"
  have brace : ("\x7d" : String).toList = ['\x7d'] := rfl
  show Token.Sealed (Layout.render (steps graphType object tree)).toList
  rw [steps, split, String.toList_append, brace] at text ⊢
  exact Token.sealed_append_separator
    ((Token.find?_append_separator (by decide) _ _).1 text).1 (by decide)

end Declaration

end Navigation
