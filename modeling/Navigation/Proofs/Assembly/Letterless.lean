import Navigation.Check
import Navigation.Proofs.ErrorTree.Errors
import Navigation.Proofs.Identifier.Range

/-! Graphs without identifiers: the check of identifiers reports those of letterless routes. -/

namespace Navigation

open Identifier

/-- The check of identifiers finds a graph without one wherever a route gives none. -/
theorem emptyIdentifier_mem_namingFaults_iff {owner route : String}
    {taken : List (String × String)} {groups : List Group} :
    ⟨owner, .emptyIdentifier route⟩ ∈ Check.namingFaults taken groups ↔
      owner = route ∧ (∃ group ∈ groups, group.route = route) ∧ ofRoute route = "" := by
  -- Which identifiers are taken matters for the other kind of fault only.
  induction groups generalizing taken with
  | nil => simp [Check.namingFaults]
  | cons group rest ih =>
    rw [Check.namingFaults]
    by_cases unnamed : ofRoute group.route = ""
    · simp only [unnamed, if_true, List.mem_cons, Fault.mk.injEq, SetupError.emptyIdentifier.injEq,
        ih, exists_eq_or_imp]
      constructor
      · rintro (⟨rfl, rfl⟩ | ⟨rfl, listed, empty⟩)
        · exact ⟨rfl, .inl rfl, unnamed⟩
        · exact ⟨rfl, .inr listed, empty⟩
      · rintro ⟨rfl, rfl | listed, empty⟩
        · exact .inl ⟨rfl, rfl⟩
        · exact .inr ⟨rfl, listed, empty⟩
    · -- A graph with an identifier may be a duplicate, but is not one of those looked for.
      have behind {known : List (String × String)} :
          ⟨owner, .emptyIdentifier route⟩ ∈ Check.namingFaults known rest ↔
            owner = route ∧ (∃ other ∈ group :: rest, other.route = route) ∧
              ofRoute route = "" := by
        simp only [ih, List.mem_cons, exists_eq_or_imp]
        constructor
        · rintro ⟨rfl, listed, empty⟩
          exact ⟨rfl, .inr listed, empty⟩
        · rintro ⟨rfl, rfl | listed, empty⟩
          · exact absurd empty unnamed
          · exact ⟨rfl, listed, empty⟩
      simp only [unnamed, if_false]
      split
      · simpa using behind
      · exact behind

/-- The check of identifiers adds to a tree one report for each graph without an identifier. -/
theorem emptyIdentifier_mem_located_naming_iff (grouping : Grouping) (tree : ErrorTree)
    (path : List String) (route : String) :
    ⟨path, .emptyIdentifier route⟩ ∈ (Check.naming grouping tree).located ↔
      ⟨path, .emptyIdentifier route⟩ ∈ tree.located ∨
        path = [route] ∧ (∃ group ∈ grouping.groups, group.route = route) ∧
          ofRoute route = "" := by
  -- The check lists what it found beside what was there, in some order.
  rw [Check.naming, (ErrorTree.located_charge_perm _ tree).mem_iff, List.mem_append, or_comm]
  refine or_congr_right ?_
  constructor
  · intro charged
    obtain ⟨⟨owner, error⟩, found, same⟩ := List.mem_map.1 charged
    obtain ⟨rfl, rfl⟩ := LocatedError.mk.inj same
    obtain ⟨rfl, listed⟩ := emptyIdentifier_mem_namingFaults_iff.1 found
    exact ⟨rfl, listed⟩
  · rintro ⟨rfl, listed⟩
    exact List.mem_map.2 ⟨⟨route, .emptyIdentifier route⟩,
      emptyIdentifier_mem_namingFaults_iff.2 ⟨rfl, listed⟩, rfl⟩

/--
An identifier has letters only, is the route itself where that has letters only, and is missing
exactly where the route is letterless.

The check of identifiers therefore adds a report about each graph with such a route, under that
route, and about no other graph.
-/
theorem range_of_identifiers :
    (∀ uppercase (route : String),
      (∀ c ∈ (ofRouteBy uppercase route).toList, c.isAlpha = true) ∧
      (ofRouteBy uppercase route = route ↔ ∀ c ∈ route.toList, c.isAlpha = true) ∧
      ofRouteBy uppercase (ofRouteBy uppercase route) = ofRouteBy uppercase route ∧
      (KeepsLetters uppercase →
        (ofRouteBy uppercase route = "" ↔ Letterless uppercase route.toList))) ∧
    KeepsLetters table ∧ Agrees table ∧
    ∀ uppercase, Agrees uppercase → ∀ grouping tree path route,
      ⟨path, .emptyIdentifier route⟩ ∈ (Check.naming grouping tree).located ↔
        ⟨path, .emptyIdentifier route⟩ ∈ tree.located ∨
          path = [route] ∧ (∃ group ∈ grouping.groups, group.route = route) ∧
            Letterless uppercase route.toList := by
  refine ⟨fun uppercase route => ⟨fun c => isAlpha_of_mem_ofRouteBy, ofRouteBy_eq_self_iff route,
    ?_, fun keeps => ofRouteBy_eq_empty_iff keeps route⟩, keepsLetters_table, fun _ _ => rfl, ?_⟩
  · -- What has been made an identifier has letters only.
    exact (ofRouteBy_eq_self_iff _).2 fun c => isAlpha_of_mem_ofRouteBy
  · intro uppercase agrees grouping tree path route
    rw [emptyIdentifier_mem_located_naming_iff, ofRoute_eq_empty_iff agrees]

/-- A dotless i is lost at the start of a route, and is all that is kept behind a separator. -/
theorem range_of_identifiers_of_dotless_routes :
    let uppercase : Char → List Char := fun c => if c = 'ß' then ['S', 'S'] else table c
    let grouping : Grouping := ⟨[⟨"ı1ß", []⟩, ⟨"1ı", []⟩], []⟩
    Agrees uppercase ∧ KeepsLetters table ∧ ofRouteBy uppercase "ı1ß" = "" ∧
      ofRouteBy uppercase "1ı" ≠ "" ∧
      ⟨["ı1ß"], .emptyIdentifier "ı1ß"⟩ ∈ (Check.naming grouping .empty).located ∧
      ⟨["1ı"], .emptyIdentifier "1ı"⟩ ∉ (Check.naming grouping .empty).located := by
  intro uppercase grouping
  obtain ⟨range, keeps, -, reports⟩ := range_of_identifiers
  have agrees : Agrees uppercase := agrees_sharp
  have without : Letterless uppercase "ı1ß".toList := by decide
  have kept : ¬ Letterless uppercase "1ı".toList := by decide
  -- Both identifiers are settled by whether the route is letterless.
  refine ⟨agrees, keeps, ((range uppercase _).2.2.2 agrees.keepsLetters).2 without, ?_, ?_, ?_⟩
  · exact fun empty => kept (((range uppercase _).2.2.2 agrees.keepsLetters).1 empty)
  · exact (reports uppercase agrees grouping .empty _ _).2
      (.inr ⟨rfl, ⟨_, List.mem_cons_self, rfl⟩, without⟩)
  · -- A report would be one of the empty tree, or the route letterless.
    intro reported
    rcases (reports uppercase agrees grouping .empty _ _).1 reported with
      before | ⟨-, -, letterless⟩
    · simp [ErrorTree.empty, ErrorNode.empty, ErrorNode.located, ErrorBranches.located,
        LocatedError.atTop] at before
    · exact kept letterless

end Navigation
