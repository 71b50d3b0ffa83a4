import Mathlib.Data.List.Sort
import Navigation.Proofs.ErrorTree.Located

/-! Trees of faults read along paths of routes, by which ordered trees can be told apart. -/

namespace Navigation

open LocatedError (errorsAt)

/-- The messages at the end of a path of routes, if there is such a path. -/
def ErrorNode.messagesAt? : List String → ErrorNode → Option (List SetupError)
  | [], node => some node.messages
  | route :: path, node => (node.children.child? route).bind (messagesAt? path)

namespace ErrorBranches

/-- A level is known from the list of its routes and nodes. -/
theorem toList_injective : Function.Injective toList := by
  -- Both lists are taken apart entry by entry, and an entry has all that a branch has.
  intro left right same
  induction left generalizing right with
  | nil =>
    cases right with
    | nil => rfl
    | cons route messages below rest => simp [toList] at same
  | cons first messages below rest _ ih =>
    cases right with
    | nil => simp [toList] at same
    | cons route others under behind =>
      obtain ⟨entry, tail⟩ := List.cons_eq_cons.1 same
      simp only [Prod.mk.injEq, ErrorNode.mk.injEq] at entry
      obtain ⟨rfl, rfl, rfl⟩ := entry
      rw [ih tail]

/-- An ascending level is known from what is found below each route. -/
theorem eq_of_child?_eq {left right : ErrorBranches} (ascending : left.Ascending)
    (ascending' : right.Ascending) (same : ∀ route, left.child? route = right.child? route) :
    left = right := by
  -- Routes and their nodes can be listed in ascending order in one way only.
  let before : String × ErrorNode → String × ErrorNode → Prop := fun entry other =>
    entry.1 < other.1
  have irreflexive : Std.Irrefl before := ⟨fun entry => String.lt_irrefl entry.1⟩
  have antisymmetric : Std.Antisymm before :=
    ⟨fun _ _ one other => absurd (String.lt_trans one other) (String.lt_irrefl _)⟩
  refine toList_injective (List.Pairwise.eq_of_mem_iff (r := before) ascending ascending' ?_)
  rintro ⟨route, node⟩
  rw [mem_toList_iff ascending, mem_toList_iff ascending', same]

/-- No fault of a level is at the top. -/
theorem errorsAt_nil_located (branches : ErrorBranches) : errorsAt [] branches.located = [] := by
  -- Each path starts with a route of the level.
  induction branches with
  | nil => rfl
  | cons route messages below rest _ ih =>
    rw [located, LocatedError.errorsAt_append, LocatedError.errorsAt_nil_allUnder, ih,
      List.nil_append]

/-- The faults behind a route of a level are those of the node found there. -/
theorem errorsAt_cons_located {branches : ErrorBranches} (ascending : branches.Ascending)
    (route : String) (path : List String) :
    errorsAt (route :: path) branches.located =
      (branches.child? route).elim [] fun node => errorsAt path node.located := by
  -- Only one branch has the route, and all others list nothing on the path.
  induction branches with
  | nil => rfl
  | cons first messages below rest _ ih =>
    obtain ⟨lowest, ascending⟩ := ascending_cons.1 ascending
    rw [located_cons first ⟨messages, below⟩, LocatedError.errorsAt_append,
      LocatedError.errorsAt_cons_allUnder, ih ascending, child?]
    by_cases here : route = first
    · -- The routes behind the first are above it, so none of them is the same.
      have absent : rest.child? route = none := child?_eq_none_of_lt (here ▸ lowest)
      simp [here, here ▸ absent]
    · simp [here]

end ErrorBranches

namespace ErrorNode

/-- A node is settled once the nodes below its routes are. -/
theorem induction_children {motive : ErrorNode → Prop}
    (settle : ∀ node : ErrorNode,
      (∀ route below, node.children.child? route = some below → motive below) → motive node)
    (node : ErrorNode) : motive node := by
  -- All nodes below a level are settled, those below its first route before the others.
  have below (branches : ErrorBranches) :
      ∀ route node, branches.child? route = some node → motive node := by
    induction branches with
    | nil => simp [ErrorBranches.child?]
    | cons first messages below rest inner others =>
      intro route node found
      rw [ErrorBranches.child?] at found
      split at found
      · obtain rfl := Option.some.inj found
        exact settle _ inner
      · exact others route node found
  exact settle node (below node.children)

/-- An ordered node is known from the messages at the end of each path. -/
theorem eq_of_messagesAt?_eq {node other : ErrorNode} (ordered : node.children.Ordered)
    (ordered' : other.children.Ordered)
    (same : ∀ path, node.messagesAt? path = other.messagesAt? path) : node = other := by
  -- The nodes below a route are compared as a whole, which takes an induction over nodes.
  induction node using induction_children generalizing other with
  | settle node ih =>
    have top : node.messages = other.messages := Option.some.inj (same [])
    have children : node.children = other.children := by
      refine ErrorBranches.eq_of_child?_eq ordered.ascending ordered'.ascending fun route => ?_
      -- Every path behind the route leads to the same messages on both sides.
      have behind (path : List String) := same (route :: path)
      simp only [messagesAt?] at behind
      cases left : node.children.child? route with
      | none =>
        cases right : other.children.child? route with
        | none => rfl
        | some below => simpa [left, right, messagesAt?] using behind []
      | some below =>
        cases right : other.children.child? route with
        | none => simpa [left, right, messagesAt?] using behind []
        | some below' =>
          simp only [left, right, Option.bind_some] at behind
          rw [ih route below left (ordered.child left) (ordered'.child right) behind]
    cases node
    cases other
    exact congr (congrArg ErrorNode.mk top) children

/-- The faults of an ordered node at some path are the messages that the path leads to. -/
theorem errorsAt_located {node : ErrorNode} (ordered : node.children.Ordered)
    (path : List String) : errorsAt path node.located = (node.messagesAt? path).getD [] := by
  -- The path is followed from the top, one route at a time.
  induction path generalizing node with
  | nil =>
    rw [located, LocatedError.errorsAt_append, LocatedError.errorsAt_atTop, if_pos rfl,
      ErrorBranches.errorsAt_nil_located, List.append_nil, messagesAt?, Option.getD_some]
  | cons route path ih =>
    rw [located, LocatedError.errorsAt_append, LocatedError.errorsAt_atTop,
      if_neg (List.cons_ne_nil route path), List.nil_append,
      ErrorBranches.errorsAt_cons_located ordered.ascending, messagesAt?]
    cases found : node.children.child? route with
    | none => rfl
    | some below => exact ih (ordered.child found)

end ErrorNode

/-- A tree is known from the messages at the end of each path. -/
theorem ErrorTree.eq_of_messagesAt?_eq {tree other : ErrorTree}
    (same : ∀ path, tree.messagesAt? path = other.messagesAt? path) : tree = other :=
  ext (ErrorNode.eq_of_messagesAt?_eq tree.ordered other.ordered same)

end Navigation
