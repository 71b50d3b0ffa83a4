import Navigation.ErrorTree

/-! One level of a tree of faults, seen as a map from routes to what lies below them. -/

namespace Navigation

namespace ErrorBranches

/-- A level lists its routes in ascending order, each once. -/
def Ascending (branches : ErrorBranches) : Prop :=
  branches.toList.Pairwise fun left right => left.1 < right.1

/-- A level ascends exactly if its first route is below the others, which ascend. -/
theorem ascending_cons {route : String} {messages : List SetupError} {below rest : ErrorBranches} :
    Ascending (.cons route messages below rest) ↔
      (∀ entry ∈ rest.toList, route < entry.1) ∧ rest.Ascending := by
  -- All routes behind the first one are compared with it.
  simp [Ascending, toList]

/-- An ordered level ascends. -/
theorem Ordered.ascending {branches : ErrorBranches} (ordered : branches.Ordered) :
    branches.Ascending := by
  -- What lies below the routes does not matter to the level itself.
  induction branches with
  | nil => exact .nil
  | cons route messages below rest _ ih =>
    obtain ⟨lowest, -, behind⟩ := ordered
    exact ascending_cons.2 ⟨lowest, ih behind⟩

/-- Only listed routes have a node below them. -/
theorem child?_eq_none_of_lt {route : String} {branches : ErrorBranches}
    (above : ∀ entry ∈ branches.toList, route < entry.1) : branches.child? route = none := by
  -- The route would have to be equal to one that it is below.
  induction branches with
  | nil => rfl
  | cons first messages below rest _ ih =>
    simp only [toList, List.forall_mem_cons] at above
    have other : route ≠ first := String.ne_of_lt above.1
    simp only [child?, other, if_false]
    exact ih above.2

/-- Listing an ascending level and looking its routes up tell the same. -/
theorem mem_toList_iff {route : String} {node : ErrorNode} {branches : ErrorBranches}
    (ascending : branches.Ascending) :
    (route, node) ∈ branches.toList ↔ branches.child? route = some node := by
  -- A route that stands in front cannot be listed again behind.
  induction branches with
  | nil => simp [toList, child?]
  | cons first messages below rest _ ih =>
    obtain ⟨lowest, ascending⟩ := ascending_cons.1 ascending
    simp only [toList, List.mem_cons, child?, ih ascending, Prod.mk.injEq]
    by_cases same : route = first
    · -- All routes behind the first are above it, so they are others.
      have absent : rest.child? route = none := child?_eq_none_of_lt (same ▸ lowest)
      simp [same, same ▸ absent, eq_comm]
    · simp [same]

/-- Changing the node below a route changes what is found there, and nothing else. -/
theorem child?_alter {route other : String} {change : ErrorNode → ErrorNode}
    {branches : ErrorBranches} (ascending : branches.Ascending) :
    (branches.alter route change).child? other =
      if other = route then some (change ((branches.child? route).getD .empty))
      else branches.child? other := by
  -- The look-up follows the change, branch by branch.
  induction branches with
  | nil =>
    by_cases same : other = route <;> simp [alter, child?, same]
  | cons first messages below rest _ ih =>
    obtain ⟨lowest, ascending⟩ := ascending_cons.1 ascending
    rw [alter]
    split
    · next here =>
      subst here
      by_cases same : other = route <;> simp [child?, same]
    · next elsewhere =>
      split
      · next before =>
        -- An ascending level that starts above the route does not list it.
        have absent : rest.child? route = none :=
          child?_eq_none_of_lt fun entry listed => String.lt_trans before (lowest entry listed)
        by_cases same : other = route <;> simp [child?, same, elsewhere, absent]
      · by_cases same : other = route
        · subst same
          simp [child?, elsewhere, ih ascending]
        · simp [child?, same, ih ascending]

/-- A node can be changed where it stands, or looked up, changed and put back. -/
theorem alter_child? {route : String} {branches : ErrorBranches} (ascending : branches.Ascending)
    (change : ErrorNode → ErrorNode) :
    branches.alter route (fun _ => change ((branches.child? route).getD .empty)) =
      branches.alter route change := by
  -- Both ways lead past the same branches, and the look-up finds the node that is changed.
  induction branches with
  | nil => rfl
  | cons first messages below rest _ ih =>
    obtain ⟨lowest, ascending⟩ := ascending_cons.1 ascending
    by_cases here : route = first
    · simp [alter, child?, here]
    · by_cases before : route < first
      · have absent : rest.child? route = none :=
          child?_eq_none_of_lt fun entry listed => String.lt_trans before (lowest entry listed)
        simp [alter, child?, here, before, absent]
      · simp only [alter, child?, if_neg here, if_neg before, ih ascending]

/-- A level is without faults exactly if every node in it is. -/
theorem isEmpty_iff {branches : ErrorBranches} :
    branches.isEmpty = true ↔ ∀ entry ∈ branches.toList, entry.2.isEmpty = true := by
  -- A branch counts as empty by its own messages and by what is below it.
  induction branches with
  | nil => simp [isEmpty, toList]
  | cons first messages below rest _ ih =>
    simp [isEmpty, toList, ErrorNode.isEmpty, ih, and_assoc]

end ErrorBranches

namespace ErrorTree

/-- A tree is known from its top node. -/
theorem ext {tree other : ErrorTree} (same : tree.toErrorNode = other.toErrorNode) :
    tree = other := by
  -- The order is a proposition, which has nothing to tell apart.
  cases tree
  cases other
  cases same
  rfl

/-- The tree below a route has the node that is found there. -/
theorem toErrorNode_below (route : String) (tree : ErrorTree) :
    (tree.below route).toErrorNode = (tree.children.child? route).getD .empty := by
  -- Either something is found there, or the empty tree is given.
  unfold below
  split <;> simp_all [empty]

/-- A fault charged to a graph is added to the node below the graph's route. -/
theorem children_addFor (route : String) (error : SetupError) (tree : ErrorTree) :
    (tree.addFor route error).children = tree.children.alter route (.add error) := by
  -- The tree below the route is looked up, gets the fault, and is put back.
  have changed : ((tree.below route).add error).toErrorNode =
      ((tree.children.child? route).getD .empty).add error :=
    congrArg (ErrorNode.add error) (toErrorNode_below route tree)
  simp only [addFor, alterAt, put, changed]
  exact ErrorBranches.alter_child? tree.ordered.ascending (.add error)

end ErrorTree

end Navigation
