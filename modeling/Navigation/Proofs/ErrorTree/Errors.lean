import Navigation.Check
import Navigation.Proofs.ErrorTree.Located

/-! The faults a tree lists: each that is added is listed once, and none is counted twice. -/

namespace Navigation

namespace ErrorBranches

/-- Faults below a point are counted by listing them. -/
theorem count_eq_length_errors (branches : ErrorBranches) :
    branches.count = branches.errors.length := by
  -- Both go through the branches, and add up what each of them has.
  induction branches with
  | nil => rfl
  | cons route messages below rest belowCount restCount =>
    simp only [count, errors, List.length_append, belowCount, restCount]
    omega

end ErrorBranches

/-- Faults at a node and below it are counted by listing them. -/
theorem ErrorNode.count_eq_length_errors (node : ErrorNode) : node.count = node.errors.length := by
  -- The messages of the node are counted beside those below it.
  rw [count, errors, List.length_append, ErrorBranches.count_eq_length_errors]

namespace ErrorTree

/-- Faults charged one after the other are all listed, each below the route of its graph. -/
theorem located_charge_perm (faults : List Fault) (tree : ErrorTree) :
    (tree.charge faults).located.Perm
      (faults.map (fun fault => ⟨[fault.route], fault.error⟩) ++ tree.located) := by
  -- Each fault is added to the tree that those before it have left.
  induction faults generalizing tree with
  | nil => exact .refl _
  | cons fault rest ih =>
    have step := (located_addFor fault.route fault.error tree).append_left
      (rest.map fun fault => ⟨[fault.route], fault.error⟩)
    exact (ih (tree.addFor fault.route fault.error)).trans (step.trans List.perm_middle)

/-- Faults charged one after the other are all listed, beside those that were there before. -/
theorem errors_charge (faults : List Fault) (tree : ErrorTree) :
    (tree.charge faults).errors.Perm (faults.map (·.error) ++ tree.errors) := by
  -- Without their paths, the faults are the same.
  have listed := (located_charge_perm faults tree).map (·.error)
  rwa [List.map_append, List.map_map, ErrorNode.map_error_located,
    ErrorNode.map_error_located] at listed

end ErrorTree

end Navigation
