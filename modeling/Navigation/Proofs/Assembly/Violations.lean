import Navigation.Proofs.Assembly.Charge
import Navigation.Proofs.Assembly.Graphs
import Navigation.Generation

/-! What is wrong with each graph on its own, and that failed assembly reports exactly that. -/

namespace Navigation

/-- What is wrong with the identifier of a graph that has the given routes before it. -/
def identifierViolations (earlier : List String) (route : String) : List SetupError :=
  let identifier := Identifier.ofRoute route
  if identifier = "" then [.emptyIdentifier route]
  else
    match earlier.find? fun other => Identifier.ofRoute other == identifier with
    | some first => [.duplicateIdentifier identifier first route]
    | none => []

/-- The texts a graph brings into generated code: its route, then those of each destination. -/
def textsAt (destinations : List Destination) (route : String) : List String :=
  route :: (membersAt route destinations).flatMap fun member =>
    [member.route, member.simpleName] ++ member.optIns.names

/-- Each text of a graph that holds a token. -/
def tokenViolations (destinations : List Destination) (route : String) : List SetupError :=
  ((textsAt destinations route).filter Token.occursIn).map (.tokenInValue route)

/-- What is wrong with the number of a graph's starts. -/
def startViolations (destinations : List Destination) (route : String) : List SetupError :=
  let starts := startCount destinations route
  if starts = 1 then [] else [.illegalStarts route starts]

/-- All that is wrong with the graph at a route. -/
def violations (destinations : List Destination) (route : String) : List SetupError :=
  identifierViolations ((graphRoutes destinations).takeWhile (· != route)) route ++
    tokenViolations destinations route ++ startViolations destinations route

/-- A table of identifiers that knows, of the routes met so far, the first with each of them. -/
def KnowsFirst (taken : List (String × String)) (met : List String) : Prop :=
  ∀ identifier, identifier ≠ "" →
    taken.lookup identifier = met.find? fun route => Identifier.ofRoute route == identifier

/-- A route without an identifier of its own need not be remembered. -/
theorem KnowsFirst.skip {taken : List (String × String)} {met : List String} {route : String}
    (knows : KnowsFirst taken met)
    (known : Identifier.ofRoute route = "" ∨
      ∃ first, (met.find? fun other => Identifier.ofRoute other == Identifier.ofRoute route) =
        some first) :
    KnowsFirst taken (met ++ [route]) := by
  intro identifier named
  rw [knows identifier named, List.find?_append]
  -- The new route is asked for only where it is not the first with its identifier.
  by_cases same : Identifier.ofRoute route = identifier
  · rcases known with empty | ⟨first, found⟩
    · exact absurd (same.symm.trans empty) named
    · rw [same] at found
      simp [found]
  · simp [same]

/-- A route with an identifier not met before is the first with it. -/
theorem KnowsFirst.insert {taken : List (String × String)} {met : List String} {route : String}
    (knows : KnowsFirst taken met)
    (new : (met.find? fun other => Identifier.ofRoute other == Identifier.ofRoute route) = none) :
    KnowsFirst ((Identifier.ofRoute route, route) :: taken) (met ++ [route]) := by
  intro identifier named
  -- The new entry stands in front of the table, the new route behind the others.
  rw [List.lookup_cons, knows identifier named, List.find?_append]
  by_cases same : Identifier.ofRoute route = identifier
  · rw [same] at new
    simp [same, new]
  · have other : (identifier == Identifier.ofRoute route) = false := by simpa using Ne.symm same
    simp [other, same]

/-- The check of identifiers finds what is wrong with the first graph, and goes on behind it. -/
theorem namingFaults_cons (destinations : List Destination) (first : String)
    {taken : List (String × String)} {met : List String} (knows : KnowsFirst taken met)
    (rest : List Group) :
    ∃ known, KnowsFirst known (met ++ [first]) ∧
      Check.namingFaults taken (groupAt destinations first :: rest) =
        (identifierViolations met first).map (Fault.mk first) ++
          Check.namingFaults known rest := by
  by_cases empty : Identifier.ofRoute first = ""
  · -- A graph without an identifier takes none from the graphs behind it.
    refine ⟨taken, knows.skip (.inl empty), ?_⟩
    simp [Check.namingFaults, groupAt, identifierViolations, empty]
  · cases found : met.find? fun other =>
        Identifier.ofRoute other == Identifier.ofRoute first with
    | some earlier =>
      -- The identifier was taken, and stays with the graph that had it first.
      refine ⟨taken, knows.skip (.inr ⟨earlier, found⟩), ?_⟩
      simp [Check.namingFaults, groupAt, identifierViolations, empty, knows _ empty, found]
    | none =>
      refine ⟨(Identifier.ofRoute first, first) :: taken, knows.insert found, ?_⟩
      simp [Check.namingFaults, groupAt, identifierViolations, empty, knows _ empty, found]

/-- The check of identifiers charges each graph with what is wrong with its own. -/
theorem faultsAt_namingFaults (destinations : List Destination) {taken : List (String × String)}
    {met rest : List String} (knows : KnowsFirst taken met) (distinct : rest.Nodup)
    (route : String) :
    faultsAt route (Check.namingFaults taken (rest.map (groupAt destinations))) =
      if route ∈ rest then identifierViolations (met ++ rest.takeWhile (· != route)) route
      else [] := by
  -- The table goes along with the routes that were met, one step for each group.
  induction rest generalizing taken met with
  | nil => rfl
  | cons first rest ih =>
    obtain ⟨absent, distinct⟩ := List.nodup_cons.1 distinct
    obtain ⟨known, knows, found⟩ := namingFaults_cons destinations first knows
      (rest.map (groupAt destinations))
    rw [List.map_cons, found, faultsAt_append, faultsAt_map_mk, ih knows distinct]
    by_cases here : first = route
    · -- What was found here is all, since the route does not occur again.
      subst here
      simp [absent]
    · simp [here, Ne.symm here]

/-- Everything the checks find, in the order they find it. -/
def allFaults (destinations : List Destination) : List Fault :=
  let groups := (graphRoutes destinations).map (groupAt destinations)
  Check.namingFaults [] groups ++ groups.flatMap Check.tokenFaults ++
    groups.flatMap Check.startFaults

/-- The checks gather all they find in one tree. -/
theorem gathers_all (destinations : List Destination) :
    (Check.all (grouped destinations)).Gathers (allFaults destinations) := by
  -- Each check charges the tree that the one before it has left.
  have naming := ErrorTree.gathers_empty.charge
    (Check.namingFaults [] (grouped destinations).groups)
  have tokens := naming.charge ((grouped destinations).groups.flatMap Check.tokenFaults)
  have starts := tokens.charge ((grouped destinations).groups.flatMap Check.startFaults)
  simpa only [allFaults, Check.all, Check.starts, Check.tokens, Check.naming, groups_grouped,
    List.nil_append] using starts

/-- The check of texts finds the tokens in a graph's own texts. -/
theorem tokenFaults_groupAt (destinations : List Destination) (route : String) :
    (Check.tokenFaults (groupAt destinations route)).map (·.error) =
      tokenViolations destinations route := by
  -- The texts of the group are those of the graph, in the same order.
  simp [Check.tokenFaults, groupAt, Group.values, tokenViolations, textsAt]

/-- The check of starts counts a graph's own starts. -/
theorem startFaults_groupAt (destinations : List Destination) (route : String) :
    (Check.startFaults (groupAt destinations route)).map (·.error) =
      startViolations destinations route := by
  -- The start is found exactly if there is one.
  rw [Check.startFaults, start_groupAt destinations [] route, startViolations]
  by_cases single : startCount destinations route = 1 <;> simp [single]

/-- Each graph is charged with what is wrong with it, and no other route is charged. -/
theorem faultsAt_allFaults (destinations : List Destination) (route : String) :
    faultsAt route (allFaults destinations) =
      if route ∈ graphRoutes destinations then violations destinations route else [] := by
  -- Each check charges a graph with its own findings, and the checks run one after the other.
  have distinct := nodup_graphRoutes destinations
  have nothing : KnowsFirst [] [] := fun _ _ => rfl
  have naming := faultsAt_namingFaults destinations nothing distinct route
  have tokens : faultsAt route ((graphRoutes destinations).flatMap fun other =>
      Check.tokenFaults (groupAt destinations other)) =
        if route ∈ graphRoutes destinations then tokenViolations destinations route else [] := by
    rw [faultsAt_flatMap distinct, tokenFaults_groupAt]
    intro other fault member
    obtain ⟨_, _, rfl⟩ := List.mem_map.1 member
    rfl
  have starts : faultsAt route ((graphRoutes destinations).flatMap fun other =>
      Check.startFaults (groupAt destinations other)) =
        if route ∈ graphRoutes destinations then startViolations destinations route else [] := by
    rw [faultsAt_flatMap distinct, startFaults_groupAt]
    intro other fault member
    rw [Check.startFaults] at member
    split at member
    · simp at member
    · rw [List.mem_singleton.1 member]
      rfl
  simp only [allFaults, faultsAt_append, List.flatMap_map, naming, tokens, starts]
  -- A route without a graph is charged with nothing by any of them.
  by_cases listed : route ∈ graphRoutes destinations <;> simp [listed, violations]

/-- The checks find nothing exactly if nothing is wrong with any graph. -/
theorem allFaults_eq_nil_iff (destinations : List Destination) :
    allFaults destinations = [] ↔
      ∀ route ∈ graphRoutes destinations, violations destinations route = [] := by
  -- No fault at all means none at any route, whether it is that of a graph or not.
  rw [← forall_faultsAt_eq_nil_iff]
  constructor
  · intro uncharged route listed
    simpa [faultsAt_allFaults, listed] using uncharged route
  · intro right route
    rw [faultsAt_allFaults]
    split
    · next listed => exact right route listed
    · rfl

/-- Nothing is wrong with a graph exactly if its identifier, its texts and its start are right. -/
theorem violations_eq_nil_iff {destinations : List Destination} {route : String} :
    violations destinations route = [] ↔
      identifierViolations ((graphRoutes destinations).takeWhile (· != route)) route = [] ∧
        tokenViolations destinations route = [] ∧ startCount destinations route = 1 := by
  -- Any other number of starts would be one of the violations.
  have starts : startViolations destinations route = [] ↔ startCount destinations route = 1 := by
    by_cases single : startCount destinations route = 1 <;> simp [startViolations, single]
  rw [violations, List.append_eq_nil_iff, List.append_eq_nil_iff, starts, and_assoc]

/--
Assembly gives the graphs if nothing is wrong with any of them, and else all that is wrong.

It cannot do either without a root graph.
-/
theorem assemble_eq (destinations : List Destination) :
    assemble destinations =
      if ∃ destination ∈ destinations, destination.graphRoute = rootRoute then
        if ∀ route ∈ graphRoutes destinations, violations destinations route = [] then
          .ok (graphTreeOf destinations)
        else .error (Check.all (grouped destinations))
      else .error (.single .missingRoot) := by
  rw [assemble, ofDestinations_eq]
  by_cases rooted : ∃ destination ∈ destinations, destination.graphRoute = rootRoute
  · rw [if_pos rooted, if_pos rooted]
    -- The checks come up empty exactly if nothing is wrong.
    have clean : (Check.all (grouped destinations)).isEmpty = true ↔
        ∀ route ∈ graphRoutes destinations, violations destinations route = [] :=
      (gathers_all destinations).isEmpty_iff.trans (allFaults_eq_nil_iff destinations)
    by_cases right : ∀ route ∈ graphRoutes destinations, violations destinations route = []
    · -- Then every graph has a start, and all of them are built.
      have built := graphTree_grouped fun route listed =>
        (violations_eq_nil_iff.1 (right route listed)).2.2
      rw [if_pos right]
      simp only [built, clean.2 right, if_true]
    · -- The faults are reported whether or not all graphs could be built.
      have faulty : ¬ (Check.all (grouped destinations)).isEmpty = true := fun empty =>
        right (clean.1 empty)
      rw [if_neg right]
      cases built : (grouped destinations).graphTree with
      | ok tree =>
        simp only [built]
        rw [if_neg faulty]
      | error error => simp only [built]
  · rw [if_neg rooted, if_neg rooted]

/-- A report that lists each faulty graph with what is wrong with it, and nothing else. -/
structure ReportsExactly (destinations : List Destination) (faults : ErrorTree) : Prop where
  top : faults.messages = []
  ascending : faults.children.Ascending
  children : ∀ route below, (route, below) ∈ faults.children.toList ↔
    route ∈ graphRoutes destinations ∧ violations destinations route ≠ [] ∧
      below = ⟨violations destinations route, .nil⟩

/-- The tree of all faults is such a report. -/
theorem reportsExactly_all (destinations : List Destination) :
    ReportsExactly destinations (Check.all (grouped destinations)) where
  top := (gathers_all destinations).top
  ascending := (Check.all (grouped destinations)).ordered.ascending
  children route below := by
    -- A route is listed if it was charged, and charged with its own violations.
    rw [(gathers_all destinations).mem_children, faultsAt_allFaults]
    by_cases listed : route ∈ graphRoutes destinations <;> simp [listed]

/-- Generation fails with the faults of assembly, before anything is written. -/
theorem process_of_assemble_eq_error {σ ε : Type} {destinations : List Destination}
    {faults : ErrorTree} (failed : assemble destinations = .error faults) (sink : Sink σ ε)
    (capabilities : Capabilities) (templates : TemplateSet) (names : OutputNames) (place : σ) :
    process sink destinations capabilities templates names place =
      ⟨.error (.setup faults), [], place⟩ := by
  -- The texts are made from the graphs, of which there are none.
  have none : generate destinations capabilities templates names = .error faults := by
    rw [generate, failed]
    rfl
  simp only [process, none]

/--
Assembly succeeds exactly if nothing is wrong, and a failure reports exactly what is wrong.

Only the absence of a root graph is reported alone. A run that fails hands on the same report.
-/
theorem assemble_outcome (destinations : List Destination) :
    (if ∃ destination ∈ destinations, destination.graphRoute = rootRoute then
      ((∃ tree, assemble destinations = .ok tree) ↔
        ∀ route ∈ graphRoutes destinations, violations destinations route = []) ∧
      ∀ faults, assemble destinations = .error faults → ReportsExactly destinations faults
    else assemble destinations = .error ⟨⟨[.missingRoot], .nil⟩, trivial⟩) ∧
    ∀ faults, assemble destinations = .error faults →
      ∀ {σ ε : Type} (sink : Sink σ ε) capabilities templates names place,
        (process sink destinations capabilities templates names place).result =
          .error (.setup faults) := by
  constructor
  · have outcome := assemble_eq destinations
    by_cases rooted : ∃ destination ∈ destinations, destination.graphRoute = rootRoute
    · rw [if_pos rooted] at outcome ⊢
      by_cases right : ∀ route ∈ graphRoutes destinations, violations destinations route = []
      · -- Nothing is wrong, so there are graphs and no report.
        rw [if_pos right] at outcome
        exact ⟨iff_of_true ⟨_, outcome⟩ right, fun faults failed => by simp [outcome] at failed⟩
      · -- Something is wrong, so there is a report and it is the tree of all faults.
        rw [if_neg right] at outcome
        refine ⟨iff_of_false (fun ⟨tree, built⟩ => by simp [outcome] at built) right, ?_⟩
        intro faults failed
        rw [outcome] at failed
        rw [← Except.error.inj failed]
        exact reportsExactly_all destinations
    · rw [if_neg rooted] at outcome ⊢
      exact outcome
  · -- The run looks at the destinations before it looks at the sink.
    intro faults failed σ ε sink capabilities templates names place
    rw [process_of_assemble_eq_error failed]

/-- A root graph that takes a nested graph's identifier, holds a token, and has no start. -/
theorem assemble_outcome_of_faulty_root :
    let destinations : List Destination :=
      [{ simpleName := "Home", route := "home/[X]" },
        { simpleName := "A", route := "a", graphRoute := "root_", isStart := true }]
    ∃ faults, assemble destinations = .error faults ∧ faults.messages = [] ∧
      ("root", ⟨[.duplicateIdentifier "root" "root_" "root", .tokenInValue "root" "home/[X]",
        .illegalStarts "root" 0], .nil⟩) ∈ faults.children.toList := by
  intro destinations
  have rooted : ∃ destination ∈ destinations, destination.graphRoute = rootRoute := by decide
  have wrong : violations destinations "root" = [.duplicateIdentifier "root" "root_" "root",
      .tokenInValue "root" "home/[X]", .illegalStarts "root" 0] := by
    decide +kernel
  have listed : "root" ∈ graphRoutes destinations := by decide +kernel
  have outcome := (assemble_outcome destinations).1
  rw [if_pos rooted] at outcome
  -- A result would mean that nothing is wrong, but three things are.
  cases result : assemble destinations with
  | ok tree =>
    have right := outcome.1.1 ⟨tree, result⟩ "root" listed
    simp [wrong] at right
  | error faults =>
    have report := outcome.2 faults result
    refine ⟨faults, rfl, report.top, (report.children _ _).2 ⟨listed, ?_, ?_⟩⟩
    · simp [wrong]
    · rw [wrong]

end Navigation
