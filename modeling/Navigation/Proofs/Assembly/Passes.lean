import Navigation.Proofs.ErrorTree.Additive

/-! Passes of validation: each adds what it finds to the faults it is handed, and only that. -/

namespace Navigation

namespace Check

/-- A check that needs no more than the groups, and can be run on any tree of faults. -/
inductive Pass where
  | naming
  | tokens
  deriving DecidableEq

/-- Runs one pass on a tree. -/
def Pass.run (grouping : Grouping) : Pass → ErrorTree → ErrorTree
  | .naming => Check.naming grouping
  | .tokens => Check.tokens grouping

/-- Runs passes one after the other on the same tree. -/
def runAll (grouping : Grouping) (passes : List Pass) (tree : ErrorTree) : ErrorTree :=
  passes.foldl (fun tree pass => pass.run grouping tree) tree

/-- What a pass finds, which does not depend on the tree it is run on. -/
def Pass.findings (grouping : Grouping) : Pass → List Fault
  | .naming => namingFaults [] grouping.groups
  | .tokens => grouping.groups.flatMap tokenFaults

/-- Running a pass charges its findings to the tree. -/
theorem Pass.run_eq_charge (grouping : Grouping) (pass : Pass) (tree : ErrorTree) :
    pass.run grouping tree = tree.charge (pass.findings grouping) := by
  -- Either check charges what it finds.
  cases pass <;> rfl

/-- Running passes charges the findings of all of them, pass by pass. -/
theorem runAll_eq_charge (grouping : Grouping) (passes : List Pass) (tree : ErrorTree) :
    runAll grouping passes tree = tree.charge (passes.flatMap (Pass.findings grouping)) := by
  -- Each pass is handed the tree that the passes before it have left.
  induction passes generalizing tree with
  | nil => rfl
  | cons pass rest ih =>
    show runAll grouping rest (pass.run grouping tree) = _
    rw [ih, Pass.run_eq_charge, List.flatMap_cons, ErrorTree.charge, ErrorTree.charge,
      ErrorTree.charge, List.foldl_append]

/-- A pass joins the tree it is run on with what it makes of the empty tree. -/
theorem Pass.run_eq_merge (grouping : Grouping) (pass : Pass) (tree : ErrorTree) :
    pass.run grouping tree = tree.merge (pass.run grouping .empty) := by
  -- Both sides are charged with the same findings.
  rw [run_eq_charge, run_eq_charge, ErrorTree.charge_eq_merge]

end Check

open Check (Pass runAll)

/--
Passes only add to the faults they are handed, so neither their order nor the tree matters.

What a tree has further down, below the routes that are charged, stays as it is, and so do routes
without faults. Validation as a whole is the passes run separately, and joined.
-/
theorem passes_only_add (grouping : Grouping) :
    (∀ (pass : Pass) (tree : ErrorTree),
      pass.run grouping tree = tree.merge (pass.run grouping .empty)) ∧
    (∀ passes others : List Pass, (∀ pass, passes.count pass = others.count pass) →
      ∀ tree : ErrorTree,
        let left := runAll grouping passes tree
        let right := runAll grouping others tree
        left.messages = right.messages ∧
        (∀ route, Option.Rel (fun below under => below.messages.Perm under.messages ∧
            below.children = under.children)
          (left.children.child? route) (right.children.child? route)) ∧
        left.count = right.count) ∧
    runAll grouping [.naming, .tokens] .empty =
      (Check.naming grouping .empty).merge (Check.tokens grouping .empty) ∧
    Check.all grouping = Check.starts grouping (runAll grouping [.naming, .tokens] .empty) := by
  refine ⟨Pass.run_eq_merge grouping, ?_, Pass.run_eq_merge grouping .tokens _, rfl⟩
  intro passes others same tree left right
  -- Passes in another order have the same findings in another order.
  have order : (passes.flatMap (Pass.findings grouping)).Perm
      (others.flatMap (Pass.findings grouping)) :=
    (List.perm_iff_count.2 same).flatMap_right _
  have leftCharged : left = _ := Check.runAll_eq_charge grouping passes tree
  have rightCharged : right = _ := Check.runAll_eq_charge grouping others tree
  -- So the two trees are charged with the same faults, and nothing at the top changes.
  have shuffled : left.children.Shuffled right.children := by
    rw [leftCharged, rightCharged]
    exact ErrorTree.shuffled_charge order tree
  have top : left.messages = right.messages := by
    rw [leftCharged, rightCharged, ErrorTree.messages_charge, ErrorTree.messages_charge]
  refine ⟨top, shuffled.child?, ?_⟩
  rw [ErrorNode.count, ErrorNode.count, top, shuffled.count_eq]

/-- Passes in two orders, on a tree that has a charged route already, with faults further down. -/
theorem passes_only_add_of_nested_faults :
    let destinations : List Destination :=
      [{ simpleName := "Home", route := "home/[X]", isStart := true },
        { simpleName := "A", route := "a", graphRoute := "a-b" },
        { simpleName := "B", route := "b/[Y]", graphRoute := "a_b" }]
    let tree : ErrorTree := ⟨⟨[.missingRoot], .cons "a_b" [.illegalStarts "a_b" 0]
      (.cons "a_b" [.emptyIdentifier "_"] .nil .nil) (.cons "z" [] .nil .nil)⟩, by decide⟩
    ∃ grouping, Grouping.ofDestinations destinations = .ok grouping ∧
      let left := runAll grouping [.naming, .tokens, .naming] tree
      let right := runAll grouping [.tokens, .naming, .naming] tree
      (∀ pass, [Pass.naming, .tokens, .naming].count pass =
        [Pass.tokens, .naming, .naming].count pass) ∧
      left ≠ right ∧ left.count = right.count ∧ right.count = 7 ∧
      Option.Rel (fun below under => below.messages.Perm under.messages ∧
          below.children = under.children)
        (left.children.child? "a_b") (right.children.child? "a_b") := by
  -- The two orders have the same passes, and they do not end in the same tree.
  intro destinations tree
  refine ⟨Grouping.gather destinations, by decide +kernel, ?_⟩
  intro left right
  have same : ∀ pass, [Pass.naming, .tokens, .naming].count pass =
      [Pass.tokens, .naming, .naming].count pass := by
    intro pass
    cases pass <;> decide
  obtain ⟨-, orders, -⟩ := passes_only_add (Grouping.gather destinations)
  obtain ⟨-, below, counts⟩ := orders _ _ same tree
  exact ⟨same, by decide +kernel, counts, by decide +kernel, below "a_b"⟩

end Navigation
