import Navigation.Check
import Navigation.Proofs.Assembly.Groups
import Navigation.Proofs.ErrorTree.View

/-! Faults charged one after the other end up under their graphs, in the order they came. -/

namespace Navigation

/-- The faults charged to the graph at a route, in their order. -/
def faultsAt (route : String) (faults : List Fault) : List SetupError :=
  (faults.filter (·.route == route)).map (·.error)

/-- No faults charge no graph. -/
@[simp] theorem faultsAt_nil (route : String) : faultsAt route [] = [] :=
  rfl

/-- Faults found in sequence are charged in sequence. -/
@[simp] theorem faultsAt_append (route : String) (first second : List Fault) :
    faultsAt route (first ++ second) = faultsAt route first ++ faultsAt route second := by
  -- Picking the faults of one route goes through both parts in turn.
  simp [faultsAt]

/-- The first fault is charged to its own graph. -/
theorem faultsAt_cons (route : String) (fault : Fault) (rest : List Fault) :
    faultsAt route (fault :: rest) =
      if fault.route = route then fault.error :: faultsAt route rest else faultsAt route rest := by
  -- The fault is picked or left out, and the others stay as they are.
  by_cases same : fault.route = route <;> simp [faultsAt, same]

/-- Errors of one graph are charged to that graph. -/
theorem faultsAt_map_mk (route own : String) (errors : List SetupError) :
    faultsAt route (errors.map (Fault.mk own)) = if own = route then errors else [] := by
  -- They all name that graph, so all of them are picked or none.
  by_cases same : own = route <;> simp [faultsAt, List.filter_map, Function.comp_def, same]

/-- No graph is charged exactly if there are no faults. -/
theorem forall_faultsAt_eq_nil_iff {faults : List Fault} :
    (∀ route, faultsAt route faults = []) ↔ faults = [] := by
  constructor
  · -- The first fault would be charged to the graph it names.
    intro uncharged
    cases faults with
    | nil => rfl
    | cons fault rest =>
      have charged := uncharged fault.route
      simp [faultsAt_cons] at charged
  · rintro rfl route
    rfl

/-- A check that runs over distinct graphs charges each of them with its own findings. -/
theorem faultsAt_flatMap {routes : List String} {check : String → List Fault}
    (distinct : routes.Nodup) (own : ∀ route, ∀ fault ∈ check route, fault.route = route)
    (route : String) :
    faultsAt route (routes.flatMap check) =
      if route ∈ routes then (check route).map (·.error) else [] := by
  -- The findings at one route are all charged to it, and none of the others are.
  induction routes with
  | nil => rfl
  | cons first rest ih =>
    obtain ⟨absent, distinct⟩ := List.nodup_cons.1 distinct
    rw [List.flatMap_cons, faultsAt_append, ih distinct]
    by_cases same : route = first
    · -- All findings here count, and there are none behind.
      subst same
      have all : (check route).filter (·.route == route) = check route :=
        List.filter_eq_self.2 fun fault member => by simp [own route fault member]
      simp [faultsAt, all, absent]
    · -- None of the findings here count.
      have none : (check first).filter (·.route == route) = [] := by
        refine List.filter_eq_nil_iff.2 fun fault member => ?_
        simpa [own first fault member] using Ne.symm same
      simp [faultsAt, none, same]

/-- A tree that holds the given faults under their graphs, and nothing else. -/
structure ErrorTree.Gathers (faults : List Fault) (tree : ErrorTree) : Prop where
  top : tree.messages = []
  below : ∀ route, tree.children.child? route =
    if faultsAt route faults = [] then none else some ⟨faultsAt route faults, .nil⟩

namespace ErrorTree

/-- The empty tree holds no faults. -/
theorem gathers_empty : Gathers [] empty where
  -- Nothing is charged, so no route has a node.
  top := rfl
  below _ := rfl

/-- Charging one more fault puts it behind those its graph has already. -/
theorem Gathers.addFor {faults : List Fault} {tree : ErrorTree} (holds : Gathers faults tree)
    (fault : Fault) : Gathers (faults ++ [fault]) (tree.addFor fault.route fault.error) where
  top := holds.top
  below route := by
    -- Only the graph of the new fault is looked up differently than before.
    rw [children_addFor, ErrorBranches.child?_alter tree.ordered.ascending, holds.below,
      holds.below]
    by_cases same : route = fault.route
    · subst same
      by_cases first : faultsAt fault.route faults = [] <;>
        simp [faultsAt_cons, first, ErrorNode.add, ErrorNode.empty]
    · simp [faultsAt_cons, same, Ne.symm same]

/-- Charging faults one after the other gathers them all. -/
theorem Gathers.charge {faults : List Fault} {tree : ErrorTree} (holds : Gathers faults tree)
    (more : List Fault) : Gathers (faults ++ more) (tree.charge more) := by
  -- Each step adds one fault to what is gathered so far.
  induction more generalizing faults tree with
  | nil => simpa [ErrorTree.charge] using holds
  | cons fault rest ih => simpa [ErrorTree.charge] using ih (holds.addFor fault)

/-- The children of a tree are the graphs that are charged, each with its own faults only. -/
theorem Gathers.mem_children {faults : List Fault} {tree : ErrorTree} (holds : Gathers faults tree)
    {route : String} {below : ErrorNode} :
    (route, below) ∈ tree.children.toList ↔
      faultsAt route faults ≠ [] ∧ below = ⟨faultsAt route faults, .nil⟩ := by
  -- What is listed is what a look-up finds, and that is what was charged.
  rw [ErrorBranches.mem_toList_iff tree.ordered.ascending, holds.below]
  by_cases none : faultsAt route faults = []
  · simp [none]
  · simp [none, eq_comm]

/-- A tree is without faults exactly if it was charged with none. -/
theorem Gathers.isEmpty_iff {faults : List Fault} {tree : ErrorTree} (holds : Gathers faults tree) :
    tree.isEmpty = true ↔ faults = [] := by
  -- A graph that is charged is listed together with its faults.
  simp only [ErrorNode.isEmpty, holds.top, List.isEmpty_nil, Bool.true_and,
    ErrorBranches.isEmpty_iff]
  rw [← forall_faultsAt_eq_nil_iff]
  constructor
  · intro clean route
    by_cases charged : faultsAt route faults = []
    · exact charged
    · -- A charged graph would be listed with a tree that is not empty.
      have without := clean _ (holds.mem_children.2 ⟨charged, rfl⟩)
      simpa [ErrorBranches.isEmpty] using without
  · rintro uncharged ⟨route, below⟩ listed
    exact absurd (uncharged route) (holds.mem_children.1 listed).1

end ErrorTree

end Navigation
