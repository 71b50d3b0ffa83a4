import Navigation.Proofs.ErrorTree.View

/-! The faults of a tree with the paths of routes that lead to them. -/

namespace Navigation

/-- A fault of a tree, and the routes on the way to it. -/
structure LocatedError where
  path : List String
  error : SetupError
  deriving DecidableEq

namespace LocatedError

/-- A fault as it is seen from above a route that is on the way to it. -/
def under (route : String) (located : LocatedError) : LocatedError :=
  { located with path := route :: located.path }

/-- Faults at the top, each with the empty path. -/
def atTop (messages : List SetupError) : List LocatedError :=
  messages.map (LocatedError.mk [])

/-- Faults as they are seen from above a route that is on the way to all of them. -/
def allUnder (route : String) (located : List LocatedError) : List LocatedError :=
  located.map (LocatedError.under route)

/-- What is at the top are the messages there. -/
@[simp] theorem map_error_atTop (messages : List SetupError) :
    (atTop messages).map (·.error) = messages := by
  -- Each message is given a path, which is dropped again.
  simp [atTop, Function.comp_def]

/-- A route on the way to faults does not change the faults. -/
@[simp] theorem map_error_allUnder (route : String) (located : List LocatedError) :
    (allUnder route located).map (·.error) = located.map (·.error) := by
  -- Only the paths become longer.
  simp [allUnder, Function.comp_def, LocatedError.under]

/-- The faults at one path, in the order they are listed. -/
def errorsAt (path : List String) (located : List LocatedError) : List SetupError :=
  (located.filter (·.path == path)).map (·.error)

/-- Faults listed one after the other are found one after the other. -/
theorem errorsAt_append (path : List String) (first second : List LocatedError) :
    errorsAt path (first ++ second) = errorsAt path first ++ errorsAt path second := by
  -- Picking the faults of one path goes through both parts in turn.
  simp [errorsAt]

/-- Faults at the top are found on the empty path only. -/
theorem errorsAt_atTop (path : List String) (messages : List SetupError) :
    errorsAt path (atTop messages) = if path = [] then messages else [] := by
  -- All of them have the empty path, so all are picked or none.
  cases path <;> simp [errorsAt, atTop, List.filter_map, Function.comp_def]

/-- No fault below a route is at the top. -/
theorem errorsAt_nil_allUnder (route : String) (located : List LocatedError) :
    errorsAt [] (allUnder route located) = [] := by
  -- Each of their paths starts with that route.
  simp [errorsAt, allUnder, List.filter_map, Function.comp_def, LocatedError.under]

/-- A fault below a route is found where the path goes on behind that route. -/
theorem errorsAt_cons_allUnder (other : String) (path : List String) (route : String)
    (located : List LocatedError) :
    errorsAt (other :: path) (allUnder route located) =
      if other = route then errorsAt path located else [] := by
  -- A path that starts with the route is compared from behind it on.
  by_cases same : other = route
  · simp [errorsAt, allUnder, List.filter_map, Function.comp_def, LocatedError.under, same]
  · have apart : (route == other) = false := by simpa using Ne.symm same
    simp [errorsAt, allUnder, List.filter_map, Function.comp_def, LocatedError.under, same, apart]

end LocatedError

open LocatedError (atTop allUnder)

/-- Every fault below a point with its path from there, in the order they are listed. -/
def ErrorBranches.located : ErrorBranches → List LocatedError
  | .nil => []
  | .cons route messages below rest =>
    allUnder route (atTop messages ++ below.located) ++ rest.located

/-- Every fault at a node or below it with its path from there, in the order they are listed. -/
def ErrorNode.located (node : ErrorNode) : List LocatedError :=
  atTop node.messages ++ node.children.located

namespace ErrorBranches

/-- The faults of the first branch are listed before those of the others. -/
theorem located_cons (route : String) (node : ErrorNode) (rest : ErrorBranches) :
    (cons route node.messages node.children rest).located =
      allUnder route node.located ++ rest.located :=
  -- The node's own errors stand in front of those below it.
  rfl

/-- Without their paths, these are the faults below a point. -/
theorem map_error_located (branches : ErrorBranches) :
    branches.located.map (·.error) = branches.errors := by
  -- Both list a route's own faults, then those below it, then those behind it.
  induction branches with
  | nil => rfl
  | cons route messages below rest belowErrors restErrors =>
    rw [located, errors, List.map_append, LocatedError.map_error_allUnder, List.map_append,
      LocatedError.map_error_atTop, belowErrors, restErrors, List.append_assoc]

/--
A change that adds faults to a node adds them to a level, seen from above the route.

The order is that of the routes, so the new faults need not stand behind the old ones.
-/
theorem located_alter_perm {change : ErrorNode → ErrorNode} {added : List LocatedError}
    (adds : ∀ node, (change node).located.Perm (node.located ++ added)) (route : String)
    (branches : ErrorBranches) :
    (branches.alter route change).located.Perm
      (branches.located ++ allUnder route added) := by
  -- A branch that is changed lists what it had, what is new, and what is behind it.
  have changed (node : ErrorNode) (rest : ErrorBranches) :
      (allUnder route (change node).located ++ rest.located).Perm
        ((allUnder route node.located ++ rest.located) ++ allUnder route added) := by
    have here : (allUnder route (change node).located).Perm
        (allUnder route node.located ++ allUnder route added) := by
      rw [allUnder, allUnder, allUnder, ← List.map_append]
      exact (adds node).map _
    refine (here.append_right rest.located).trans ?_
    rw [List.append_assoc, List.append_assoc]
    exact List.perm_append_comm.append_left _
  -- The change is made here, in front of here, or further behind.
  induction branches with
  | nil => exact changed .empty .nil
  | cons first messages below rest _ ih =>
    rw [alter]
    split
    · next here =>
      subst here
      exact changed ⟨messages, below⟩ rest
    · split
      · exact changed .empty (.cons first messages below rest)
      · rw [located, located, List.append_assoc]
        exact ih.append_left _

end ErrorBranches

namespace ErrorNode

/-- Without their paths, these are the faults at a node and below it. -/
theorem map_error_located (node : ErrorNode) : node.located.map (·.error) = node.errors := by
  -- The messages of the node are listed first on both sides.
  rw [located, errors, List.map_append, LocatedError.map_error_atTop,
    ErrorBranches.map_error_located]

end ErrorNode

/-- A fault charged to a graph is listed once more, below the graph's route. -/
theorem ErrorTree.located_addFor (route : String) (error : SetupError) (tree : ErrorTree) :
    (tree.addFor route error).located.Perm (⟨[route], error⟩ :: tree.located) := by
  -- At the node below the route, the fault is put behind those already there.
  have adds (below : ErrorNode) :
      (below.add error).located.Perm (below.located ++ [⟨[], error⟩]) := by
    rw [ErrorNode.located, ErrorNode.located, ErrorNode.add, atTop, List.map_append,
      List.append_assoc, List.append_assoc]
    exact List.perm_append_comm.append_left _
  have charged := (ErrorBranches.located_alter_perm adds route tree.children).append_left
    (atTop tree.messages)
  rw [← List.append_assoc, ← children_addFor] at charged
  exact charged.trans List.perm_append_comm

end Navigation
