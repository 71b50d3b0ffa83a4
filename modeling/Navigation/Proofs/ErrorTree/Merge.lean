import Navigation.Proofs.ErrorTree.Errors
import Navigation.Proofs.ErrorTree.Paths

/-! Joining trees of faults: a monoid that loses no fault and leaves each where it was. -/

namespace Navigation

open LocatedError (atTop)

/-- Nodes joined at the top list the faults of both if their levels, once joined, do. -/
theorem ErrorNode.located_join_perm {left right joined : ErrorBranches}
    (below : joined.located.Perm (left.located ++ right.located))
    (messages others : List SetupError) :
    (mk (messages ++ others) joined).located.Perm
      ((mk messages left).located ++ (mk others right).located) := by
  have top : atTop (messages ++ others) = atTop messages ++ atTop others := List.map_append
  simp only [located, top, List.append_assoc]
  -- The messages of the right side move past what is below on the left.
  refine List.Perm.append_left _ ((below.append_left (atTop others)).trans ?_)
  rw [← List.append_assoc, ← List.append_assoc]
  exact List.perm_append_comm.append_right _

namespace ErrorBranches

/-- Below a route that both sides have, their nodes are joined; others are taken over. -/
theorem child?_merge {left right : ErrorBranches} (ordered : left.Ordered)
    (ordered' : right.Ordered) (route : String) :
    (left.merge right).child? route =
      match right.child? route with
      | some node => some (((left.child? route).getD .empty).merge node)
      | none => left.child? route := by
  -- The left side takes in one branch at a time, and is looked up as it is after each of them.
  induction right generalizing left with
  | nil => rfl
  | cons first messages below rest _ ih =>
    obtain ⟨lowest, under, behind⟩ := ordered'
    have taken : (left.alter first fun node =>
        ⟨node.messages ++ messages, node.children.merge below⟩).Ordered :=
      ordered.alter first fun _ kept => kept.merge under
    rw [merge, ih taken behind, child?_alter ordered.ascending, child?]
    by_cases here : route = first
    · -- No branch behind the first one has its route.
      have absent : rest.child? route = none := child?_eq_none_of_lt (here ▸ lowest)
      simp only [here, here ▸ absent, if_true]
      rfl
    · simp only [here, if_false]

/-- A joined level lists the faults of both sides, each on its path. -/
theorem located_merge_perm (left right : ErrorBranches) :
    (left.merge right).located.Perm (left.located ++ right.located) := by
  -- What a branch adds is listed at once, and what the others add by induction.
  induction right generalizing left with
  | nil => simp [merge, located]
  | cons route messages below rest inner others =>
    -- The first branch is joined with whatever the left side has below its route.
    have adds (node : ErrorNode) :
        (ErrorNode.mk (node.messages ++ messages) (node.children.merge below)).located.Perm
          (node.located ++ (ErrorNode.mk messages below).located) :=
      ErrorNode.located_join_perm (inner node.children) node.messages messages
    rw [merge, located_cons route ⟨messages, below⟩, ← List.append_assoc]
    exact (others _).trans ((located_alter_perm adds route left).append_right rest.located)

/-- A level has no fault exactly if none is counted. -/
theorem isEmpty_iff_count (branches : ErrorBranches) :
    branches.isEmpty = true ↔ branches.count = 0 := by
  -- Messages and branches are either all absent, or some of them are counted.
  induction branches with
  | nil => simp [isEmpty, count]
  | cons route messages below rest inner others =>
    simp [isEmpty, count, inner, others, and_assoc]

end ErrorBranches

namespace ErrorNode

/-- The empty node has a path to the top only, and no messages there. -/
theorem merge_messagesAt?_empty (node : ErrorNode) (path : List String) :
    Option.merge (· ++ ·) (empty.messagesAt? path) (node.messagesAt? path) =
      node.messagesAt? path := by
  -- No message stands in front of those at the top, and further down there is no such path.
  cases path with
  | nil => rfl
  | cons route path => exact Option.merge_none_left

/--
A path of a joined node leads to the messages of the left side, and then those of the right.

A path that only one of them has leads to the messages it has there.
-/
theorem messagesAt?_merge {node other : ErrorNode} (ordered : node.children.Ordered)
    (ordered' : other.children.Ordered) (path : List String) :
    (node.merge other).messagesAt? path =
      Option.merge (· ++ ·) (node.messagesAt? path) (other.messagesAt? path) := by
  -- The path is followed in all three nodes, for as long as both sides have it.
  induction path generalizing node other with
  | nil => rfl
  | cons route path ih =>
    have children : (node.merge other).children = node.children.merge other.children := rfl
    rw [messagesAt?, messagesAt?, messagesAt?, children,
      ErrorBranches.child?_merge ordered ordered']
    cases right : other.children.child? route with
    | none => simp
    | some below =>
      have under := ordered'.child right
      cases left : node.children.child? route with
      | none =>
        -- An empty node stands in for the one that is missing on the left.
        have nothing : empty.children.Ordered := trivial
        simp only [Option.getD_none, Option.bind_some, Option.bind_none]
        rw [ih nothing under, merge_messagesAt?_empty, Option.merge_none_left]
      | some above => exact ih (ordered.child left) under

/-- The empty node changes nothing behind a node. -/
theorem merge_empty (node : ErrorNode) : node.merge empty = node := by
  -- There is no message, and no branch to be put in.
  simp [merge, empty, ErrorBranches.merge]

/-- There is no fault exactly if none is counted. -/
theorem isEmpty_iff_count (node : ErrorNode) : node.isEmpty = true ↔ node.count = 0 := by
  -- The messages of the node are asked for beside those below it.
  simp [isEmpty, count, ErrorBranches.isEmpty_iff_count]

/-- There is no fault exactly if none is listed. -/
theorem isEmpty_iff_errors (node : ErrorNode) : node.isEmpty = true ↔ node.errors = [] := by
  -- As many faults are counted as are listed.
  rw [isEmpty_iff_count, count_eq_length_errors, List.length_eq_zero_iff]

end ErrorNode

namespace ErrorTree

/-- A path of a joined tree leads to the messages of the left side, and then those of the right. -/
theorem messagesAt?_merge (tree other : ErrorTree) (path : List String) :
    (tree.merge other).messagesAt? path =
      Option.merge (· ++ ·) (tree.messagesAt? path) (other.messagesAt? path) :=
  -- Both trees are in order, which is all that the nodes need.
  ErrorNode.messagesAt?_merge tree.ordered other.ordered path

/-- A joined tree lists the faults of both sides, each on its path. -/
theorem located_merge_perm (tree other : ErrorTree) :
    (tree.merge other).located.Perm (tree.located ++ other.located) :=
  ErrorNode.located_join_perm
    (ErrorBranches.located_merge_perm tree.children other.children) _ _

/-- A joined tree lists the faults of both sides. -/
theorem errors_merge_perm (tree other : ErrorTree) :
    (tree.merge other).errors.Perm (tree.errors ++ other.errors) := by
  -- Without their paths, the faults are the same.
  have listed := (located_merge_perm tree other).map (·.error)
  rwa [List.map_append, ErrorNode.map_error_located, ErrorNode.map_error_located,
    ErrorNode.map_error_located] at listed

/-- Joining trees does not depend on which two are joined first. -/
theorem merge_assoc (one two three : ErrorTree) :
    (one.merge two).merge three = one.merge (two.merge three) := by
  refine eq_of_messagesAt?_eq fun path => ?_
  -- Messages are put behind each other, which can be done in any grouping.
  simp only [messagesAt?_merge]
  have associative : Std.Associative (α := List SetupError) (· ++ ·) := ⟨List.append_assoc⟩
  exact Std.Associative.assoc _ _ _

/-- The empty tree changes nothing in front of a tree. -/
theorem empty_merge (tree : ErrorTree) : empty.merge tree = tree := by
  refine eq_of_messagesAt?_eq fun path => ?_
  -- It has no messages at the top, and no other paths.
  rw [messagesAt?_merge]
  exact ErrorNode.merge_messagesAt?_empty tree.toErrorNode path

/-- The empty tree changes nothing behind a tree. -/
theorem merge_empty (tree : ErrorTree) : tree.merge empty = tree :=
  ext tree.toErrorNode.merge_empty

/-- A tree passes exactly if it has no fault. -/
theorem check_eq_ok_iff (tree : ErrorTree) : tree.check = .ok () ↔ tree.isEmpty = true := by
  -- The tree itself is what the check fails with.
  rw [check]
  split <;> simp_all

/--
Joining is a monoid on trees of faults, and loses nothing.

Every fault of either side stays on its path, behind the faults that were there before, and a tree
counts, lists and reports as empty in the same cases, whatever routes without faults it has.
-/
theorem lossless_merge :
    (∀ one two three : ErrorTree,
      (one.merge two).merge three = one.merge (two.merge three)) ∧
    (∀ tree : ErrorTree, empty.merge tree = tree ∧ tree.merge empty = tree) ∧
    (∀ one two : ErrorTree,
      (one.merge two).count = one.count + two.count ∧
      (one.merge two).errors.Perm (one.errors ++ two.errors) ∧
      (∀ error, (one.merge two).contains error = true ↔
        one.contains error = true ∨ two.contains error = true)) ∧
    (∀ (one two : ErrorTree) (path : List String),
      (one.merge two).messagesAt? path =
        Option.merge (· ++ ·) (one.messagesAt? path) (two.messagesAt? path)) ∧
    ∀ tree : ErrorTree,
      (tree.isEmpty = true ↔ tree.count = 0) ∧ (tree.isEmpty = true ↔ tree.errors = []) ∧
        (tree.isEmpty = true ↔ tree.check = .ok ()) := by
  refine ⟨merge_assoc, fun tree => ⟨empty_merge tree, merge_empty tree⟩, ?_, messagesAt?_merge,
    fun tree => ⟨tree.isEmpty_iff_count, tree.isEmpty_iff_errors, (check_eq_ok_iff tree).symm⟩⟩
  -- All that is counted or looked for is what is listed.
  intro one two
  have listed := errors_merge_perm one two
  refine ⟨?_, listed, fun error => ?_⟩
  · rw [ErrorNode.count_eq_length_errors, ErrorNode.count_eq_length_errors,
      ErrorNode.count_eq_length_errors, listed.length_eq, List.length_append]
  · simp only [ErrorNode.contains, List.contains_iff_mem, listed.mem_iff, List.mem_append]

/-- Two trees that share a route two levels down, both with routes that have no faults. -/
theorem lossless_merge_of_shared_routes :
    let one : ErrorTree := ⟨⟨[.missingRoot],
      .cons "a" [] (.cons "b" [.emptyIdentifier "b"] .nil .nil) (.cons "z" [] .nil .nil)⟩,
      by decide⟩
    let two : ErrorTree := ⟨⟨[], .cons "" [] .nil
      (.cons "a" [.illegalStarts "a" 0] (.cons "b" [.illegalStarts "b" 2] .nil .nil) .nil)⟩,
      by decide⟩
    (one.merge two).merge one = one.merge (two.merge one) ∧
      empty.merge two = two ∧ (one.merge two).count = 4 ∧
      (one.merge two).messagesAt? ["a", "b"] =
        some [.emptyIdentifier "b", .illegalStarts "b" 2] := by
  -- The second tree has an empty route in front of the one they share.
  intro one two
  obtain ⟨associative, neutral, sums, paths, -⟩ := lossless_merge
  refine ⟨associative one two one, (neutral two).1, (sums one two).1, ?_⟩
  rw [paths one two]
  rfl

end ErrorTree

end Navigation
