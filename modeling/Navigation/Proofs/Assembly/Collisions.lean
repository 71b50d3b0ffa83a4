import Navigation.Proofs.Assembly.Violations
import Navigation.Proofs.Identifier.Runs

/-! Routes that differ in their separators only: they get one identifier, and assembly says so. -/

namespace Navigation

/-- Whether a report has an error among those of the graph at a route. -/
def ErrorTree.Charges (faults : ErrorTree) (route : String) (error : SetupError) : Prop :=
  ∃ below, (route, below) ∈ faults.children.toList ∧ error ∈ below.messages

/-- Of two different names in a list, one stands before the other. -/
theorem mem_takeWhile_or {one other : String} (apart : one ≠ other) {names : List String}
    (first : one ∈ names) (second : other ∈ names) :
    one ∈ names.takeWhile (· != other) ∨ other ∈ names.takeWhile (· != one) := by
  -- The first name of the list that is either of them decides.
  induction names with
  | nil => simp at first
  | cons name rest ih =>
    by_cases here : name = one
    · subst here
      simp [apart]
    · by_cases there : name = other
      · subst there
        simp [Ne.symm apart]
      · have deeper : one ∈ rest := by simpa [Ne.symm here] using first
        have further : other ∈ rest := by simpa [Ne.symm there] using second
        rcases ih deeper further with before | before <;> simp [here, there, before]

/-- What stands before a name does not depend on what is behind a list that has the name. -/
theorem takeWhile_append_of_mem {name : String} {names : List String} (member : name ∈ names)
    (rest : List String) :
    (names ++ rest).takeWhile (· != name) = names.takeWhile (· != name) := by
  -- The name ends the search before it gets to the rest.
  induction names with
  | nil => simp at member
  | cons first names ih =>
    by_cases here : first = name
    · simp [here]
    · have deeper : name ∈ names := by simpa [Ne.symm here] using member
      simp [here, ih deeper]

/-- Anything that is wrong with a graph makes assembly fail, and is charged to that graph. -/
theorem charges_of_mem_violations {destinations : List Destination}
    (rooted : ∃ destination ∈ destinations, destination.graphRoute = rootRoute) {route : String}
    (listed : route ∈ graphRoutes destinations) {error : SetupError}
    (wrong : error ∈ violations destinations route) :
    assemble destinations = .error (Check.all (grouped destinations)) ∧
      (Check.all (grouped destinations)).Charges route error := by
  have faulty : violations destinations route ≠ [] := List.ne_nil_of_mem wrong
  constructor
  · -- The graphs would be there only if nothing were wrong with any of them.
    rw [assemble_eq, if_pos rooted, if_neg]
    intro right
    exact faulty (right route listed)
  · refine ⟨⟨violations destinations route, .nil⟩, ?_, wrong⟩
    exact ((reportsExactly_all destinations).children _ _).2 ⟨listed, faulty, rfl⟩

/-- A graph whose identifier is that of an earlier graph is told which one had it first. -/
theorem identifierViolations_of_taken {earlier : List String} {one other : String}
    (named : Identifier.ofRoute other ≠ "") (before : one ∈ earlier)
    (same : Identifier.ofRoute one = Identifier.ofRoute other) :
    ∃ first ∈ earlier, Identifier.ofRoute first = Identifier.ofRoute other ∧
      identifierViolations earlier other =
        [.duplicateIdentifier (Identifier.ofRoute other) first other] := by
  -- There is one that had it, so there is a first.
  cases found : earlier.find? fun route =>
      Identifier.ofRoute route == Identifier.ofRoute other with
  | none =>
    have none := List.find?_eq_none.1 found one before
    simp [same] at none
  | some first =>
    have taken := List.find?_some found
    refine ⟨first, List.mem_of_find?_eq_some found, by simpa using taken, ?_⟩
    simp only [identifierViolations, if_neg named, found]

/-- A graph that shares its identifier with an earlier one is charged with a duplicate. -/
theorem charges_duplicate {destinations : List Destination}
    (rooted : ∃ destination ∈ destinations, destination.graphRoute = rootRoute)
    {one later : String} (nested : later ∈ nestedRoutes destinations)
    (before : one ∈ (nestedRoutes destinations).takeWhile (· != later))
    (same : Identifier.ofRoute one = Identifier.ofRoute later)
    (named : Identifier.ofRoute later ≠ "") :
    assemble destinations = .error (Check.all (grouped destinations)) ∧
      ∃ first ∈ (nestedRoutes destinations).takeWhile (· != later),
        Identifier.ofRoute first = Identifier.ofRoute later ∧
          (Check.all (grouped destinations)).Charges later
            (.duplicateIdentifier (Identifier.ofRoute later) first later) := by
  -- What is nested keeps its place among all graphs, since the root comes last.
  have listed : later ∈ graphRoutes destinations := List.mem_append_left _ nested
  obtain ⟨first, met, shared, wrong⟩ := identifierViolations_of_taken named before same
  have charged : .duplicateIdentifier (Identifier.ofRoute later) first later ∈
      violations destinations later := by
    simp [violations, graphRoutes, takeWhile_append_of_mem nested, wrong]
  -- The violation is one of a listed graph, so assembly reports it.
  obtain ⟨failed, charges⟩ := charges_of_mem_violations rooted listed charged
  exact ⟨failed, first, met, shared, charges⟩

/-- A graph without an identifier is charged with that. -/
theorem charges_empty {destinations : List Destination}
    (rooted : ∃ destination ∈ destinations, destination.graphRoute = rootRoute) {route : String}
    (nested : route ∈ nestedRoutes destinations) (unnamed : Identifier.ofRoute route = "") :
    assemble destinations = .error (Check.all (grouped destinations)) ∧
      (Check.all (grouped destinations)).Charges route (.emptyIdentifier route) := by
  -- An empty identifier is a violation of its own, whatever stands before the graph.
  refine charges_of_mem_violations rooted (List.mem_append_left _ nested) ?_
  simp [violations, identifierViolations, unnamed]

open Identifier in
/--
Any run of separators in a route can be put in the place of any other, and what is in front of it
gives its part of the identifier alone.

Two graphs whose routes differ in nothing else can thus never be assembled together: the one that
is sighted later is reported as a duplicate, or both as having no identifier.
-/
theorem interchangeable_runs :
    KeepsSeparators table ∧
    (∀ uppercase, KeepsSeparators uppercase →
      ∀ front run other rest : String, Run run.toList → Run other.toList →
        ofRouteBy uppercase (front ++ run ++ rest) = ofRouteBy uppercase (front ++ other ++ rest) ∧
        ofRouteBy uppercase (front ++ run ++ rest) =
          ofRouteBy uppercase front ++ ofRouteBy uppercase (run ++ rest) ∧
        ofRouteBy uppercase (front ++ run) = ofRouteBy uppercase front) ∧
    ∀ destinations one other,
      (∃ destination ∈ destinations, destination.graphRoute = rootRoute) →
      one ∈ nestedRoutes destinations → other ∈ nestedRoutes destinations → one ≠ other →
      DifferInRuns one.toList other.toList →
      ∃ faults, assemble destinations = .error faults ∧
        if ofRoute one = "" then
          faults.Charges one (.emptyIdentifier one) ∧ faults.Charges other (.emptyIdentifier other)
        else
          ∃ later ∈ [one, other], ∃ first ∈ (nestedRoutes destinations).takeWhile (· != later),
            ofRoute first = ofRoute later ∧
              faults.Charges later (.duplicateIdentifier (ofRoute later) first later) := by
  refine ⟨keepsSeparators_table, ?_, ?_⟩
  · intro uppercase keeps front run other rest first second
    refine ⟨?_, ?_, ?_⟩
    · rw [ofRouteBy_append_run keeps front first, ofRouteBy_append_run keeps front second]
    · -- A route that starts with the run has nothing in front of it.
      have alone := ofRouteBy_append_run keeps "" first rest
      have none : ofRouteBy uppercase "" = "" := rfl
      rw [String.empty_append, none, String.empty_append] at alone
      rw [ofRouteBy_append_run keeps front first, alone]
    · -- A route that ends with the run has nothing behind it.
      have last := ofRouteBy_append_run keeps front first ""
      simpa [letters] using last
  · intro destinations one other rooted first second apart differ
    have same := ofRoute_eq_of_differInRuns differ
    refine ⟨Check.all (grouped destinations), ?_⟩
    by_cases unnamed : ofRoute one = ""
    · -- Neither route has anything to offer.
      obtain ⟨failed, charges⟩ := charges_empty rooted first unnamed
      obtain ⟨-, also⟩ := charges_empty rooted second (same.symm.trans unnamed)
      rw [if_pos unnamed]
      exact ⟨failed, charges, also⟩
    · -- The one that stands behind the other is charged.
      rw [if_neg unnamed]
      rcases mem_takeWhile_or apart first second with before | before
      · have named : ofRoute other ≠ "" := fun empty => unnamed (same.trans empty)
        obtain ⟨failed, duplicate⟩ := charges_duplicate rooted second before same named
        exact ⟨failed, other, by simp, duplicate⟩
      · obtain ⟨failed, duplicate⟩ := charges_duplicate rooted first before same.symm unnamed
        exact ⟨failed, one, by simp, duplicate⟩

open Identifier in
/-- Two routes with a run of one separator and a run of three, one of them with another at its end. -/
theorem interchangeable_runs_of_two_routes :
    let destinations : List Destination :=
      [{ simpleName := "Home", route := "home", isStart := true },
        { simpleName := "A", route := "a", graphRoute := "a-b", isStart := true },
        { simpleName := "B", route := "b", graphRoute := "a_1_b/", isStart := true }]
    ofRouteBy table ("a" ++ "-" ++ "b") = ofRouteBy table ("a" ++ "_1_" ++ "b") ∧
      ∃ faults, assemble destinations = .error faults ∧ ∃ later ∈ ["a-b", "a_1_b/"], ∃ first,
        faults.Charges later (.duplicateIdentifier "aB" first later) := by
  intro destinations
  obtain ⟨keeps, laws, collide⟩ := interchangeable_runs
  have dash : Run "-".toList := ⟨by decide, List.all_eq_true.1 (by decide)⟩
  have digits : Run "_1_".toList := ⟨by decide, List.all_eq_true.1 (by decide)⟩
  refine ⟨(laws table keeps "a" "-" "_1_" "b" dash digits).1, ?_⟩
  -- The routes share their letters, and the second one has a separator behind them.
  have ends : DifferInRuns [] ['/'] := .ends (by simp) (List.all_eq_true.1 (by decide))
  have differ : DifferInRuns "a-b".toList "a_1_b/".toList :=
    .keep 'a' (.run dash digits (.keep 'b' ends))
  obtain ⟨faults, failed, report⟩ := collide destinations "a-b" "a_1_b/" (by decide)
    (by decide +kernel) (by decide +kernel) (by decide) differ
  rw [if_neg (by decide)] at report
  obtain ⟨later, either, first, -, -, charges⟩ := report
  have identifier : ofRoute later = "aB" := by
    simp only [List.mem_cons, List.not_mem_nil, or_false] at either
    rcases either with rfl | rfl <;> decide
  rw [identifier] at charges
  exact ⟨faults, failed, later, either, first, charges⟩

end Navigation
