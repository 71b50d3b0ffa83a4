import Navigation.Proofs.ErrorTree.Errors
import Navigation.Proofs.ErrorTree.Merge

/-! Faults added to a tree: the order does not matter, nor whether they are joined to it at once. -/

namespace Navigation

namespace ErrorBranches

/-! ### Changes in sequence -/

/-- Two changes below one route are one change, which makes both. -/
theorem alter_alter (route : String) (first second : ErrorNode → ErrorNode)
    (branches : ErrorBranches) :
    (branches.alter route first).alter route second =
      branches.alter route fun tree => second (first tree) := by
  -- The second change is made where the first one has been made.
  induction branches with
  | nil => simp [alter]
  | cons found messages below rest _ ih =>
    by_cases here : route = found
    · simp [alter, here]
    · by_cases before : route < found
      · simp [alter, here, before]
      · -- Both changes go past this branch.
        simp only [alter, if_neg here, if_neg before, ih]

/-- Changes below two routes, one before the other, can be made in either order. -/
theorem alter_comm_of_lt {low high : String} (order : low < high)
    (first second : ErrorNode → ErrorNode) (branches : ErrorBranches) :
    (branches.alter low first).alter high second =
      (branches.alter high second).alter low first := by
  have apart : high ≠ low := (String.ne_of_lt order).symm
  have behind : ¬ high < low := fun back => String.lt_irrefl _ (String.lt_trans order back)
  induction branches with
  | nil => simp [alter, apart, apart.symm, behind, order]
  | cons found messages below rest _ ih =>
    -- The lower route is at this branch, in front of it, or behind it.
    by_cases here : low = found
    · subst here
      simp [alter, apart, behind]
    · by_cases before : low < found
      · -- The lower route gets a branch of its own, and the higher one goes past that.
        by_cases there : high = found
        · subst there
          simp [alter, apart, here, behind, order]
        · by_cases between : high < found
          · simp [alter, apart, apart.symm, here, before, there, between, behind, order]
          · simp [alter, apart, here, before, there, between, behind]
      · -- A branch that the lower route goes past, the higher one goes past as well.
        have lower : found < low := Std.lt_of_le_of_ne (String.not_lt.1 before) (Ne.symm here)
        have past : found < high := String.lt_trans lower order
        have there : high ≠ found := (String.ne_of_lt past).symm
        have beyond : ¬ high < found := fun back => String.lt_irrefl _ (String.lt_trans past back)
        simp only [alter, if_neg here, if_neg before, if_neg there, if_neg beyond, ih]

/-- Changes below different routes can be made in either order. -/
theorem alter_comm {route other : String} (apart : route ≠ other)
    (first second : ErrorNode → ErrorNode) (branches : ErrorBranches) :
    (branches.alter route first).alter other second =
      (branches.alter other second).alter route first := by
  by_cases order : route < other
  · exact alter_comm_of_lt order first second branches
  · -- Otherwise the other route is the lower one.
    have order : other < route := Std.lt_of_le_of_ne (String.not_lt.1 order) (Ne.symm apart)
    exact (alter_comm_of_lt order second first branches).symm

/-! ### Changes and joins -/

/-- A change below a route that the right side lacks can be made before the two are joined. -/
theorem alter_merge {route : String} {right : ErrorBranches}
    (absent : ∀ entry ∈ right.toList, entry.1 ≠ route) (change : ErrorNode → ErrorNode)
    (left : ErrorBranches) :
    (left.merge right).alter route change = (left.alter route change).merge right := by
  -- Each branch that is joined changes the left side below a route of its own.
  induction right generalizing left with
  | nil => simp only [merge]
  | cons found messages below rest _ ih =>
    simp only [toList, List.forall_mem_cons] at absent
    rw [merge, merge, ih absent.2, alter_comm absent.1]

/--
A change below a route of the right side can be made after the two are joined.

The change has to be one that leaves alone what is put in front of the tree.
-/
theorem merge_alter {change : ErrorNode → ErrorNode}
    (behind : ∀ tree other : ErrorNode, tree.merge (change other) = change (tree.merge other))
    (route : String) {right : ErrorBranches} (ascending : right.Ascending)
    (left : ErrorBranches) :
    left.merge (right.alter route change) = (left.merge right).alter route change := by
  -- Where the right side has no tree yet, the left side's own tree is changed.
  have alone (tree : ErrorNode) : tree.merge (change .empty) = change tree := by
    rw [behind, ErrorNode.merge_empty]
  induction right generalizing left with
  | nil =>
    show left.alter route (fun tree => tree.merge (change .empty)) = left.alter route change
    rw [funext alone]
  | cons found messages below rest _ ih =>
    obtain ⟨lowest, ascending⟩ := ascending_cons.1 ascending
    by_cases here : route = found
    · subst here
      -- The change comes behind the join of this branch, and before all the other branches.
      have absent : ∀ entry ∈ rest.toList, entry.1 ≠ route :=
        fun entry listed => (String.ne_of_lt (lowest entry listed)).symm
      rw [alter, if_pos rfl, merge, merge, alter_merge absent, alter_alter]
      show (left.alter route fun tree => tree.merge (change ⟨messages, below⟩)).merge rest =
        (left.alter route fun tree => change (tree.merge ⟨messages, below⟩)).merge rest
      rw [funext fun tree => behind tree ⟨messages, below⟩]
    · by_cases before : route < found
      · -- No branch of the right side has the route, so the left side is changed first.
        have absent : ∀ entry ∈ (cons found messages below rest).toList, entry.1 ≠ route := by
          simp only [toList, List.forall_mem_cons]
          refine ⟨Ne.symm here, fun entry listed => ?_⟩
          exact (String.ne_of_lt (String.lt_trans before (lowest entry listed))).symm
        rw [alter, if_neg here, if_pos before, alter_merge absent, merge]
        show (left.alter route fun tree => tree.merge (change .empty)).merge _ = _
        rw [funext alone]
      · rw [alter, if_neg here, if_neg before, merge, merge, ih ascending]

/-! ### Messages in another order -/

/-- Levels that differ in the order of messages below their routes, and in nothing else. -/
inductive Shuffled : ErrorBranches → ErrorBranches → Prop where
  | nil : Shuffled .nil .nil
  | cons (route : String) {messages others : List SetupError} (below : ErrorBranches)
      {rest behind : ErrorBranches} (order : messages.Perm others)
      (later : Shuffled rest behind) :
      Shuffled (.cons route messages below rest) (.cons route others below behind)

namespace Shuffled

/-- A level differs from itself in nothing. -/
theorem refl (branches : ErrorBranches) : Shuffled branches branches := by
  -- Each list of messages is a reordering of itself.
  induction branches with
  | nil => exact .nil
  | cons route messages below rest _ ih => exact .cons route below (.refl messages) ih

/-- What differs in order from something that does, differs in order. -/
theorem trans {one two three : ErrorBranches} (first : Shuffled one two)
    (second : Shuffled two three) : Shuffled one three := by
  -- Both go through the same routes, so they can be followed branch by branch.
  induction first generalizing three with
  | nil => exact second
  | cons route below order _ ih =>
    cases second with
    | cons _ _ order' later' => exact .cons route below (order.trans order') (ih later')

/-- Changes that make the same of a tree, up to order, do so below a route. -/
theorem alter {left right : ErrorBranches} (shuffled : Shuffled left right) (route : String)
    {first second : ErrorNode → ErrorNode}
    (alike : ∀ messages others below, messages.Perm others →
      (first ⟨messages, below⟩).messages.Perm (second ⟨others, below⟩).messages ∧
        (first ⟨messages, below⟩).children = (second ⟨others, below⟩).children) :
    Shuffled (left.alter route first) (right.alter route second) := by
  -- A branch that is changed has what the changes make of its tree, with the same below it.
  have made (found : String) {messages others : List SetupError} (below : ErrorBranches)
      (order : messages.Perm others) {rest behind : ErrorBranches}
      (later : Shuffled rest behind) :
      Shuffled
        (.cons found (first ⟨messages, below⟩).messages (first ⟨messages, below⟩).children rest)
        (.cons found (second ⟨others, below⟩).messages (second ⟨others, below⟩).children
          behind) := by
    obtain ⟨changed, same⟩ := alike messages others below order
    rw [same]
    exact .cons found _ changed later
  -- Where there is no branch yet, both sides make one from the empty tree.
  induction shuffled with
  | nil => exact made route .nil (.refl []) .nil
  | cons found below order later ih =>
    rw [ErrorBranches.alter, ErrorBranches.alter]
    split
    · exact made found below order later
    · split
      · exact made route .nil (.refl []) (.cons found below order later)
      · exact .cons found below order ih

/-- Levels that differ in order have trees below the same routes, which differ in order only. -/
theorem child? {left right : ErrorBranches} (shuffled : Shuffled left right) (route : String) :
    Option.Rel (fun tree other => tree.messages.Perm other.messages ∧
      tree.children = other.children) (left.child? route) (right.child? route) := by
  -- Both have the same routes in the same places.
  induction shuffled with
  | nil => exact .none
  | cons found below order _ ih =>
    rw [ErrorBranches.child?, ErrorBranches.child?]
    split
    · exact .some ⟨order, rfl⟩
    · exact ih

/-- Levels that differ in order have as many faults. -/
theorem count_eq {left right : ErrorBranches} (shuffled : Shuffled left right) :
    left.count = right.count := by
  -- Messages in another order are as many.
  induction shuffled with
  | nil => rfl
  | cons found below order _ ih => rw [count, count, order.length_eq, ih]

end Shuffled

end ErrorBranches

namespace ErrorTree

open ErrorBranches (Shuffled)

/-- A fault charged to a tree can be charged to the tree that it is joined to. -/
theorem merge_addFor (tree other : ErrorTree) (route : String) (error : SetupError) :
    tree.merge (other.addFor route error) = (tree.merge other).addFor route error := by
  -- Messages of the left side stand in front, and the new one behind all others.
  have behind (one two : ErrorNode) : one.merge (two.add error) = (one.merge two).add error := by
    simp [ErrorNode.merge, ErrorNode.add]
  have changed : (tree.merge (other.addFor route error)).children =
      ((tree.merge other).addFor route error).children := by
    rw [children_addFor]
    show tree.children.merge (other.addFor route error).children = _
    rw [children_addFor]
    exact ErrorBranches.merge_alter behind route other.ordered.ascending tree.children
  exact ext (congrArg (ErrorNode.mk (tree.messages ++ other.messages)) changed)

/-- Faults charged to a tree can be charged to the tree that it is joined to. -/
theorem merge_charge (tree other : ErrorTree) (faults : List Fault) :
    tree.merge (other.charge faults) = (tree.merge other).charge faults := by
  -- One fault after the other moves out of the join.
  induction faults generalizing other with
  | nil => rfl
  | cons fault rest ih =>
    show tree.merge ((other.addFor fault.route fault.error).charge rest) =
      ((tree.merge other).addFor fault.route fault.error).charge rest
    rw [ih, merge_addFor]

/--
Charging faults to a tree is joining it with the tree that they make up on their own.

So whatever a check does to a tree that it is handed, it depends on what it finds and not on the
tree.
-/
theorem charge_eq_merge (faults : List Fault) (tree : ErrorTree) :
    tree.charge faults = tree.merge (empty.charge faults) := by
  -- The empty tree is charged first, and then all of it is joined.
  rw [merge_charge, merge_empty]

/-- Charging faults leaves alone what belongs to no single graph. -/
theorem messages_charge (faults : List Fault) (tree : ErrorTree) :
    (tree.charge faults).messages = tree.messages := by
  -- Each fault goes below a route, and the messages at the top are not looked at.
  induction faults generalizing tree with
  | nil => rfl
  | cons fault rest ih => exact ih (tree.addFor fault.route fault.error)

/-- Faults charged to trees that differ in order only make up trees that do. -/
theorem shuffled_charge_of_shuffled (faults : List Fault) {tree other : ErrorTree}
    (shuffled : Shuffled tree.children other.children) :
    Shuffled (tree.charge faults).children (other.charge faults).children := by
  -- On both sides, each fault is put behind the messages of its route.
  induction faults generalizing tree other with
  | nil => exact shuffled
  | cons fault rest ih =>
    refine ih ?_
    rw [children_addFor, children_addFor]
    refine shuffled.alter fault.route fun messages others below order => ?_
    exact ⟨order.append_right _, rfl⟩

/-- Faults charged in another order make up a tree that differs in order only. -/
theorem shuffled_charge {faults others : List Fault} (order : faults.Perm others)
    (tree : ErrorTree) :
    Shuffled (tree.charge faults).children (tree.charge others).children := by
  -- It is enough to look at two faults that change places.
  induction order generalizing tree with
  | nil => exact .refl _
  | cons fault _ ih => exact ih (tree.addFor fault.route fault.error)
  | trans _ _ first second => exact (first tree).trans (second tree)
  | swap fault other rest =>
    refine shuffled_charge_of_shuffled rest ?_
    rw [children_addFor, children_addFor, children_addFor, children_addFor]
    by_cases same : other.route = fault.route
    · -- Below one route, the two faults are both put behind the others.
      rw [same, ErrorBranches.alter_alter, ErrorBranches.alter_alter]
      refine (Shuffled.refl tree.children).alter fault.route fun messages others below order => ?_
      simp only [ErrorNode.add, List.append_assoc]
      exact ⟨order.append List.perm_append_comm, trivial⟩
    · rw [ErrorBranches.alter_comm same]
      exact .refl _

end ErrorTree

end Navigation
