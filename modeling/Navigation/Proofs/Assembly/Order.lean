import Mathlib.Data.List.Perm.Basic
import Navigation.Proofs.Assembly.Tree
import Navigation.Proofs.ErrorTree.Errors
import Navigation.Proofs.NameSet

/-! Assembly of reordered destinations: the same verdict, the same graphs, and as many faults. -/

namespace Navigation

namespace SetupError

/-- The identifier that a fault says was taken already. -/
def taken? : SetupError → Option String
  | .duplicateIdentifier identifier _ _ => some identifier
  | _ => none

/-- The identifiers that faults say were taken already, once for each such fault. -/
def allTaken (errors : List SetupError) : List String :=
  errors.filterMap taken?

/-- The faults that are not about an identifier taken already. -/
def apart (errors : List SetupError) : List SetupError :=
  errors.filter (·.taken?.isNone)

/-- Every fault is about an identifier taken already, or it is not. -/
theorem length_eq (errors : List SetupError) :
    errors.length = (allTaken errors).length + (apart errors).length := by
  -- The first fault is listed on one of the two sides.
  induction errors with
  | nil => rfl
  | cons error rest ih =>
    cases about : error.taken? with
    | none =>
      have listed : allTaken (error :: rest) = allTaken rest := List.filterMap_cons_none about
      have kept : apart (error :: rest) = error :: apart rest := by simp [apart, about]
      rw [listed, kept, List.length_cons, List.length_cons, ih]
      omega
    | some identifier =>
      have listed : allTaken (error :: rest) = identifier :: allTaken rest :=
        List.filterMap_cons_some about
      have dropped : apart (error :: rest) = apart rest := by simp [apart, about]
      rw [listed, dropped, List.length_cons, List.length_cons, ih]
      omega

/-- Without faults, no identifier is said to be taken. -/
@[simp] theorem allTaken_nil : allTaken [] = [] :=
  rfl

/-- A fault about an identifier taken already lists it. -/
@[simp] theorem allTaken_cons_duplicate (identifier first second : String)
    (rest : List SetupError) :
    allTaken (.duplicateIdentifier identifier first second :: rest) =
      identifier :: allTaken rest :=
  rfl

/-- An empty identifier is not one that is taken. -/
@[simp] theorem allTaken_cons_empty (route : String) (rest : List SetupError) :
    allTaken (.emptyIdentifier route :: rest) = allTaken rest :=
  rfl

/-- A fault about an identifier taken already is left out. -/
@[simp] theorem apart_cons_duplicate (identifier first second : String)
    (rest : List SetupError) :
    apart (.duplicateIdentifier identifier first second :: rest) = apart rest :=
  rfl

/-- An empty identifier stays. -/
@[simp] theorem apart_cons_empty (route : String) (rest : List SetupError) :
    apart (.emptyIdentifier route :: rest) = .emptyIdentifier route :: apart rest :=
  rfl

end SetupError

open SetupError (allTaken apart)

/-- The errors of faults, without the graphs they are charged to. -/
def errorsOf (faults : List Fault) : List SetupError :=
  faults.map (·.error)

/-! ### What the check of identifiers finds, counted -/

section

variable (taken : List (String × String)) (groups : List Group)

/-- A group is reported for its empty identifier, for a taken one, or not at all. -/
theorem errorsOf_namingFaults_cons (group : Group) :
    errorsOf (Check.namingFaults taken (group :: groups)) =
      if Identifier.ofRoute group.route = "" then
        .emptyIdentifier group.route :: errorsOf (Check.namingFaults taken groups)
      else
        match taken.lookup (Identifier.ofRoute group.route) with
        | some first =>
          .duplicateIdentifier (Identifier.ofRoute group.route) first group.route ::
            errorsOf (Check.namingFaults taken groups)
        | none =>
          errorsOf (Check.namingFaults ((Identifier.ofRoute group.route, group.route) :: taken)
            groups) := by
  -- Each case of the check puts its fault in front, or remembers the identifier.
  rw [Check.namingFaults]
  split
  · rfl
  · cases taken.lookup (Identifier.ofRoute group.route) <;> rfl

/-- Beside identifiers taken already, the check of identifiers finds each that is empty. -/
theorem apart_namingFaults :
    apart (errorsOf (Check.namingFaults taken groups)) =
      ((groups.map (·.route)).filter (Identifier.ofRoute · = "")).map .emptyIdentifier := by
  -- Whatever the table says, a group with an identifier leaves nothing here.
  induction groups generalizing taken with
  | nil => rfl
  | cons group rest ih =>
    rw [errorsOf_namingFaults_cons]
    by_cases empty : Identifier.ofRoute group.route = ""
    · simp [empty, ih]
    · cases taken.lookup (Identifier.ofRoute group.route) <;> simp [empty, ih]

/-- The empty identifier is never said to be taken. -/
theorem empty_not_mem_allTaken_namingFaults :
    "" ∉ allTaken (errorsOf (Check.namingFaults taken groups)) := by
  -- A group whose identifier is empty is reported for that alone.
  induction groups generalizing taken with
  | nil => exact List.not_mem_nil
  | cons group rest ih =>
    rw [errorsOf_namingFaults_cons]
    by_cases empty : Identifier.ofRoute group.route = ""
    · simp [empty, ih]
    · cases taken.lookup (Identifier.ofRoute group.route) <;> simp [empty, Ne.symm empty, ih]

/--
Every group with an identifier but the first is said to have one that is taken.

Where the table knows the identifier to begin with, the first group is said to have it as well.
-/
theorem count_allTaken_namingFaults {identifier : String} (named : identifier ≠ "") :
    (allTaken (errorsOf (Check.namingFaults taken groups))).count identifier =
      groups.countP (Identifier.ofRoute ·.route = identifier) -
        if (taken.lookup identifier).isSome then 0 else 1 := by
  -- The table knows an identifier from its first group on, and from then on each group counts.
  induction groups generalizing taken with
  | nil => simp [Check.namingFaults, errorsOf]
  | cons group rest ih =>
    rw [errorsOf_namingFaults_cons, List.countP_cons]
    by_cases empty : Identifier.ofRoute group.route = ""
    · -- Such a group is not among those that count.
      simp [empty, named.symm, ih]
    · rw [if_neg empty]
      by_cases same : Identifier.ofRoute group.route = identifier
      · -- The group counts, unless it is the one that brings the identifier into the table.
        subst same
        cases met : taken.lookup (Identifier.ofRoute group.route) with
        | some first => simp [ih, met]
        | none => simp [ih]
      · -- Neither the group nor what it brings into the table matters.
        have passed : (identifier == Identifier.ofRoute group.route) = false := by
          simpa using Ne.symm same
        have behind : ((Identifier.ofRoute group.route, group.route) :: taken).lookup identifier =
            taken.lookup identifier := by
          rw [List.lookup_cons, passed]
        cases taken.lookup (Identifier.ofRoute group.route) with
        | some first => simp [ih, same]
        | none => simp only [ih, same, behind, decide_false, Bool.false_eq_true, if_false, Nat.add_zero]

end

/-! ### What reordering does to the graphs -/

section

variable {first second : List Destination}

/-- Reordering keeps the members of a graph. -/
theorem perm_membersAt (order : first.Perm second) (route : String) :
    (membersAt route first).Perm (membersAt route second) :=
  order.filter _

/-- Reordering keeps the graphs below the root. -/
theorem perm_nestedRoutes (order : first.Perm second) :
    (nestedRoutes first).Perm (nestedRoutes second) := by
  -- Both lists have every route once, and they have the same routes.
  refine (List.perm_ext_iff_of_nodup (nodup_nestedRoutes _) (nodup_nestedRoutes _)).2 fun route => ?_
  simp only [mem_nestedRoutes, order.mem_iff]

/-- Reordering keeps the graphs. -/
theorem perm_graphRoutes (order : first.Perm second) :
    (graphRoutes first).Perm (graphRoutes second) :=
  (perm_nestedRoutes order).append_right _

/-- Reordering keeps the number of a graph's starts. -/
theorem startCount_eq_of_perm (order : first.Perm second) (route : String) :
    startCount first route = startCount second route :=
  (perm_membersAt order route).countP_eq _

/-- Reordering keeps the tokens in a graph's texts. -/
theorem perm_tokenViolations (order : first.Perm second) (route : String) :
    (tokenViolations first route).Perm (tokenViolations second route) := by
  -- The texts of a destination stay together, in front of or behind those of the others.
  have texts : (textsAt first route).Perm (textsAt second route) :=
    ((perm_membersAt order route).flatMap_right _).cons route
  exact (texts.filter _).map _

/-- Reordering keeps what is wrong with a graph's starts. -/
theorem startViolations_eq_of_perm (order : first.Perm second) (route : String) :
    startViolations first route = startViolations second route := by
  -- Only the number of starts matters.
  rw [startViolations, startViolations, startCount_eq_of_perm order]

/-- Reordering keeps what a graph requires. -/
theorem optIns_eq_of_perm (order : first.Perm second) (route : String) :
    (groupAt first route).optIns = (groupAt second route).optIns := by
  -- A set of names does not know the order in which they were put in.
  refine NameSet.eq_of_mem_iff fun name => ?_
  simp only [mem_optIns, groupAt, (perm_membersAt order route).mem_iff]

/-- Reordering keeps the destination that a graph opens with, if there is only one. -/
theorem start_graphAt_eq_of_perm (order : first.Perm second) {route : String}
    (single : startCount first route = 1) (nested nested' : List String) :
    (graphAt first nested route).start = (graphAt second nested' route).start := by
  -- There is one way to list a single destination.
  have single' : startCount second route = 1 := startCount_eq_of_perm order route ▸ single
  have names := ((perm_membersAt order route).filter (·.isStart)).map (·.simpleName)
  rw [starts_graphAt single nested, starts_graphAt single' nested', List.singleton_perm_singleton]
    at names
  exact names

/-! ### What reordering does to the faults -/

/-- What the checks find that is no identifier taken already, check by check. -/
theorem apart_allFaults (destinations : List Destination) :
    apart (errorsOf (allFaults destinations)) =
      ((graphRoutes destinations).filter (Identifier.ofRoute · = "")).map .emptyIdentifier ++
        (graphRoutes destinations).flatMap (tokenViolations destinations) ++
        (graphRoutes destinations).flatMap (startViolations destinations) := by
  -- The two later checks find nothing else.
  have tokens (route : String) : apart (tokenViolations destinations route) =
      tokenViolations destinations route :=
    List.filter_eq_self.2 fun error member => by
      obtain ⟨_, _, rfl⟩ := List.mem_map.1 member
      rfl
  have starts (route : String) : apart (startViolations destinations route) =
      startViolations destinations route := by
    rw [startViolations]
    split <;> rfl
  have routes : ((graphRoutes destinations).map (groupAt destinations)).map (·.route) =
      graphRoutes destinations := by
    simp [groupAt, Function.comp_def]
  -- Naming finds duplicates as well, which are left out.
  have naming := apart_namingFaults [] ((graphRoutes destinations).map (groupAt destinations))
  rw [routes] at naming
  simp only [apart, errorsOf] at naming tokens starts
  simp only [apart, errorsOf, allFaults, List.map_append, List.filter_append, List.map_flatMap,
    List.filter_flatMap, List.flatMap_map, naming, tokenFaults_groupAt, startFaults_groupAt,
    tokens, starts]

/-- The identifiers said to be taken are those that the check of identifiers says it of. -/
theorem allTaken_allFaults (destinations : List Destination) :
    allTaken (errorsOf (allFaults destinations)) = allTaken (errorsOf (Check.namingFaults []
      ((graphRoutes destinations).map (groupAt destinations)))) := by
  -- The two later checks say it of none.
  have tokens (route : String) : allTaken (tokenViolations destinations route) = [] :=
    List.filterMap_eq_nil_iff.2 fun error member => by
      obtain ⟨_, _, rfl⟩ := List.mem_map.1 member
      rfl
  have starts (route : String) : allTaken (startViolations destinations route) = [] := by
    rw [startViolations]
    split <;> rfl
  simp only [allTaken] at tokens starts
  simp [allTaken, errorsOf, allFaults, List.map_flatMap, List.filterMap_flatMap,
    List.flatMap_map, tokenFaults_groupAt, startFaults_groupAt, tokens, starts]

/-- Of the graphs with an identifier, all but one are said to have one that is taken. -/
theorem count_allTaken_allFaults (destinations : List Destination) {identifier : String}
    (named : identifier ≠ "") :
    (allTaken (errorsOf (allFaults destinations))).count identifier =
      (graphRoutes destinations).countP (Identifier.ofRoute · = identifier) - 1 := by
  -- All identifiers that are taken are found by the check of identifiers.
  rw [allTaken_allFaults, count_allTaken_namingFaults [] _ named, List.countP_map]
  rfl

/-- Reordering keeps the faults that are not about an identifier taken already. -/
theorem perm_apart_allFaults (order : first.Perm second) :
    (apart (errorsOf (allFaults first))).Perm (apart (errorsOf (allFaults second))) := by
  -- The checks go over the same graphs, each of which is found at fault in the same way.
  rw [apart_allFaults, apart_allFaults]
  have routes := perm_graphRoutes order
  have naming := (routes.filter (Identifier.ofRoute · = "")).map SetupError.emptyIdentifier
  have tokens := routes.flatMap fun route _ => perm_tokenViolations order route
  have starts : ((graphRoutes first).flatMap (startViolations first)).Perm
      ((graphRoutes second).flatMap (startViolations second)) :=
    routes.flatMap fun route _ => .of_eq (startViolations_eq_of_perm order route)
  exact (naming.append tokens).append starts

/-- Reordering keeps the identifiers said to be taken, though not the routes they are said of. -/
theorem perm_allTaken_allFaults (order : first.Perm second) :
    (allTaken (errorsOf (allFaults first))).Perm (allTaken (errorsOf (allFaults second))) := by
  -- An identifier is said to be taken as often as the number of its graphs demands.
  refine List.perm_iff_count.2 fun identifier => ?_
  by_cases named : identifier = ""
  · subst named
    rw [allTaken_allFaults, allTaken_allFaults,
      List.count_eq_zero_of_not_mem (empty_not_mem_allTaken_namingFaults _ _),
      List.count_eq_zero_of_not_mem (empty_not_mem_allTaken_namingFaults _ _)]
  · rw [count_allTaken_allFaults first named, count_allTaken_allFaults second named,
      (perm_graphRoutes order).countP_eq]

/-- Reordering keeps the number of faults. -/
theorem length_allFaults_eq_of_perm (order : first.Perm second) :
    (allFaults first).length = (allFaults second).length := by
  -- Faults are counted in two parts, about identifiers and about the rest.
  have lengths (destinations : List Destination) := SetupError.length_eq
    (errorsOf (allFaults destinations))
  simp only [errorsOf, List.length_map] at lengths
  rw [lengths first, lengths second]
  exact congr (congrArg HAdd.hAdd (perm_allTaken_allFaults order).length_eq)
    (perm_apart_allFaults order).length_eq

/-- The checks charge what they find, one fault after the other, to a tree that is empty at first. -/
theorem all_eq_charge (destinations : List Destination) :
    Check.all (grouped destinations) = ErrorTree.empty.charge (allFaults destinations) := by
  -- Each check goes on with the tree that the one before it has left.
  simp only [Check.all, Check.starts, Check.tokens, Check.naming, allFaults, groups_grouped,
    ErrorTree.charge, List.foldl_append]

/-- The tree of all faults lists what the checks find. -/
theorem errors_all (destinations : List Destination) :
    (Check.all (grouped destinations)).errors.Perm (errorsOf (allFaults destinations)) := by
  -- The checks charge all they find to a tree that has nothing yet.
  have listed := ErrorTree.errors_charge (allFaults destinations) .empty
  have nothing : ErrorTree.empty.errors = [] := rfl
  rw [nothing, List.append_nil] at listed
  rw [all_eq_charge]
  exact listed

/-! ### Reordered assembly -/

/-- Trees with the same graphs, up to the order of the graphs and of what they list. -/
structure SameGraphs (tree other : GraphTree) : Prop where
  /-- The graphs have the same routes. -/
  routes : (tree.graphs.map (·.route)).Perm (other.graphs.map (·.route))
  /-- A graph differs from the one at the same route in the order of its destinations only. -/
  graphs : ∀ graph ∈ tree.graphs, ∀ twin ∈ other.graphs, graph.route = twin.route →
    graph.identifier = twin.identifier ∧ graph.start = twin.start ∧
      graph.optIns = twin.optIns ∧ graph.entries.Perm twin.entries
  /-- The root graphs list the same fields. -/
  nested : tree.root.nested.Perm other.root.nested

/-- Reports of the same faults, up to the routes that are blamed for taking an identifier. -/
structure SameFaults (destinations : List Destination) (faults other : ErrorTree) : Prop where
  /-- There are as many faults. -/
  count : faults.count = other.count
  /-- The faults that are not about an identifier taken already are the same. -/
  apart : (apart faults.errors).Perm (apart other.errors)
  /-- Of the graphs with an identifier, all but one are said to have one that is taken. -/
  taken : (∃ destination ∈ destinations, destination.graphRoute = rootRoute) →
    ∀ route ∈ graphRoutes destinations, Identifier.ofRoute route ≠ "" →
      (allTaken faults.errors).count (Identifier.ofRoute route) + 1 =
          (graphRoutes destinations).countP (Identifier.ofRoute · = Identifier.ofRoute route) ∧
        (allTaken other.errors).count (Identifier.ofRoute route) =
          (allTaken faults.errors).count (Identifier.ofRoute route)

/-- Destinations and their reordering are assembled to the same graphs. -/
theorem sameGraphs_of_perm (order : first.Perm second)
    (right : ∀ route ∈ graphRoutes first, violations first route = []) :
    SameGraphs (graphTreeOf first) (graphTreeOf second) where
  routes := by
    rw [graphs_graphTreeOf, graphs_graphTreeOf]
    exact perm_graphRoutes order
  graphs := by
    intro graph member twin member' same
    obtain ⟨nested, route, listed, rfl⟩ := mem_graphs_graphTreeOf member
    obtain ⟨nested', route', -, rfl⟩ := mem_graphs_graphTreeOf member'
    -- Two graphs of one route are made from the same members, in another order.
    obtain rfl : route = route' := same
    have single := (violations_eq_nil_iff.1 (right route listed)).2.2
    exact ⟨rfl, start_graphAt_eq_of_perm order single nested nested',
      optIns_eq_of_perm order route, (perm_membersAt order route).map _⟩
  nested := (perm_nestedRoutes order).map Identifier.ofRoute

/-- Destinations and their reordering have the same faults. -/
theorem sameFaults_of_perm (order : first.Perm second) :
    SameFaults first (Check.all (grouped first)) (Check.all (grouped second)) where
  count := by
    have lengths := length_allFaults_eq_of_perm order
    rw [ErrorNode.count_eq_length_errors, ErrorNode.count_eq_length_errors,
      (errors_all first).length_eq, (errors_all second).length_eq]
    simpa only [errorsOf, List.length_map] using lengths
  apart := ((errors_all first).filter _).trans
    ((perm_apart_allFaults order).trans ((errors_all second).symm.filter _))
  taken := by
    intro _ route listed named
    have listing (destinations : List Destination) :=
      ((errors_all destinations).filterMap SetupError.taken?).count_eq (Identifier.ofRoute route)
    -- The route is one of those with its identifier, so one can be taken off their number.
    have some : 0 < (graphRoutes first).countP
        (Identifier.ofRoute · = Identifier.ofRoute route) :=
      List.countP_pos_iff.2 ⟨route, listed, by simp⟩
    have counted := count_allTaken_allFaults first named
    have reordered := (perm_allTaken_allFaults order).count_eq (Identifier.ofRoute route)
    simp only [allTaken] at counted reordered ⊢
    rw [listing first, listing second]
    omega

/--
The order in which destinations are found does not decide whether they can be assembled.

Nor does it decide what the graphs are, or what is wrong with them. It shows in the order of what is
listed, and in which of the graphs with one identifier is blamed for taking it.
-/
theorem assemble_of_perm (order : first.Perm second) :
    ((∃ tree, assemble first = .ok tree) ↔ ∃ tree, assemble second = .ok tree) ∧
      (∀ tree other, assemble first = .ok tree → assemble second = .ok other →
        SameGraphs tree other) ∧
      ∀ faults other, assemble first = .error faults → assemble second = .error other →
        SameFaults first faults other := by
  -- A root graph and the absence of faults are kept by reordering.
  have rooted : (∃ destination ∈ first, destination.graphRoute = rootRoute) ↔
      ∃ destination ∈ second, destination.graphRoute = rootRoute := by
    simp only [order.mem_iff]
  have clean : (∀ route ∈ graphRoutes first, violations first route = []) ↔
      ∀ route ∈ graphRoutes second, violations second route = [] := by
    rw [← allFaults_eq_nil_iff, ← allFaults_eq_nil_iff, ← List.length_eq_zero_iff,
      ← List.length_eq_zero_iff, length_allFaults_eq_of_perm order]
  refine ⟨?verdict, ?graphs, ?faults⟩
  case verdict =>
    have succeeds (destinations : List Destination) : (∃ tree, assemble destinations = .ok tree) ↔
        (∃ destination ∈ destinations, destination.graphRoute = rootRoute) ∧
          ∀ route ∈ graphRoutes destinations, violations destinations route = [] := by
      simp only [assemble_eq_ok_iff]
      exact ⟨fun ⟨_, rooted, right, _⟩ => ⟨rooted, right⟩,
        fun ⟨rooted, right⟩ => ⟨_, rooted, right, rfl⟩⟩
    rw [succeeds, succeeds, rooted, clean]
  case graphs =>
    intro tree other built built'
    obtain ⟨-, right, rfl⟩ := assemble_eq_ok_iff.1 built
    obtain ⟨-, -, rfl⟩ := assemble_eq_ok_iff.1 built'
    exact sameGraphs_of_perm order right
  case faults =>
    intro faults other failed failed'
    rw [assemble_eq] at failed failed'
    by_cases root : ∃ destination ∈ first, destination.graphRoute = rootRoute
    · -- Both have a root graph, so both reports are those of the checks.
      rw [if_pos root] at failed
      rw [if_pos (rooted.1 root)] at failed'
      split at failed
      · exact absurd failed nofun
      · split at failed'
        · exact absurd failed' nofun
        · cases failed
          cases failed'
          exact sameFaults_of_perm order
    · -- Without a root graph there is one report for all destinations.
      rw [if_neg root] at failed
      rw [if_neg (mt rooted.2 root)] at failed'
      cases failed
      cases failed'
      exact ⟨rfl, .refl _, fun present => absurd present root⟩

end

/-- Three graphs with one identifier: which of them are blamed depends on the order, not how many. -/
theorem assemble_of_perm_shared_identifier :
    let home : Destination := { simpleName := "Home", route := "home", isStart := true }
    let dashed : Destination :=
      { simpleName := "A", route := "a", graphRoute := "x-y", isStart := true }
    let dotted : Destination := { simpleName := "B", route := "b", graphRoute := "x.y" }
    let spaced : Destination :=
      { simpleName := "[C]", route := "c", graphRoute := "x y", isStart := true }
    let first := [home, dashed, dotted, spaced]
    let second := [spaced, dotted, home, dashed]
    ∃ faults other, first.Perm second ∧ assemble first = .error faults ∧
      assemble second = .error other ∧ SameFaults first faults other ∧
      allTaken faults.errors = ["xY", "xY"] ∧ faults.errors ≠ other.errors := by
  -- Both orders fail, and the graph that is blamed is another one.
  intro home dashed dotted spaced first second
  have order : first.Perm second := by decide +kernel
  have failed : assemble first = .error (Check.all (grouped first)) := by decide +kernel
  have failed' : assemble second = .error (Check.all (grouped second)) := by decide +kernel
  exact ⟨_, _, order, failed, failed', (assemble_of_perm order).2.2 _ _ failed failed',
    by decide +kernel, by decide +kernel⟩

end Navigation
