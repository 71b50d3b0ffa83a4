import Navigation.SetupError

/-! Faults grouped by graph route, level by level, and the order that each level is kept in. -/

namespace Navigation

/-- The routes below one point of a tree, each with its own messages and what lies below it. -/
inductive ErrorBranches where
  | nil
  | cons (route : String) (messages : List SetupError) (below rest : ErrorBranches)
  deriving DecidableEq

/-- Faults that belong to one point of a tree, and those below it, which belong to a route. -/
structure ErrorNode where
  messages : List SetupError
  children : ErrorBranches
  deriving DecidableEq

namespace ErrorNode

/-- The node without faults. -/
def empty : ErrorNode :=
  ⟨[], .nil⟩

/-- Adds a fault behind those already at a node. -/
def add (error : SetupError) (node : ErrorNode) : ErrorNode :=
  { node with messages := node.messages ++ [error] }

end ErrorNode

namespace ErrorBranches

/-- The routes of a level, each with the node below it. -/
def toList : ErrorBranches → List (String × ErrorNode)
  | .nil => []
  | .cons route messages below rest => (route, ⟨messages, below⟩) :: rest.toList

/-- The node below a route of a level. -/
def child? (route : String) : ErrorBranches → Option ErrorNode
  | .nil => none
  | .cons first messages below rest =>
    if route = first then some ⟨messages, below⟩ else rest.child? route

/-- Changes the node at a route; where there is none yet, an empty node is changed and put in. -/
def alter (route : String) (change : ErrorNode → ErrorNode) : ErrorBranches → ErrorBranches
  | .nil =>
    let made := change .empty
    .cons route made.messages made.children .nil
  | .cons first messages below rest =>
    if route = first then
      let made := change ⟨messages, below⟩
      .cons first made.messages made.children rest
    else if route < first then
      let made := change .empty
      .cons route made.messages made.children (.cons first messages below rest)
    else .cons first messages below (alter route change rest)

/-- Joins two levels: what both have under a route is joined, the left side's messages first. -/
def merge (left : ErrorBranches) : ErrorBranches → ErrorBranches
  | .nil => left
  | .cons route messages below rest =>
    merge
      (left.alter route fun node => ⟨node.messages ++ messages, merge node.children below⟩)
      rest

/-- A level whose routes ascend, each of them once, as do those of every level below it. -/
def Ordered : ErrorBranches → Prop
  | .nil => True
  | .cons route _ below rest =>
    (∀ entry ∈ rest.toList, route < entry.1) ∧ below.Ordered ∧ rest.Ordered

instance decidableOrdered : (branches : ErrorBranches) → Decidable branches.Ordered
  | .nil => isTrue trivial
  | .cons route _ below rest =>
    have := decidableOrdered below
    have := decidableOrdered rest
    inferInstanceAs (Decidable
      ((∀ entry ∈ rest.toList, route < entry.1) ∧ below.Ordered ∧ rest.Ordered))

/-- Changing the node below a route adds no other route. -/
theorem mem_routes_alter {route : String} {change : ErrorNode → ErrorNode}
    {branches : ErrorBranches} {entry : String × ErrorNode}
    (listed : entry ∈ (branches.alter route change).toList) :
    entry.1 = route ∨ ∃ old ∈ branches.toList, old.1 = entry.1 := by
  -- The change is made here, in front of here, or further behind.
  induction branches with
  | nil =>
    simp only [alter, toList, List.mem_singleton] at listed
    exact .inl (by rw [listed])
  | cons first messages below rest _ ih =>
    rw [alter] at listed
    split at listed
    · next same =>
      -- The change is made at the first branch, whose route is the one asked for.
      simp only [toList, List.mem_cons] at listed
      rcases listed with rfl | listed
      · exact .inl same.symm
      · exact .inr ⟨entry, by simp [toList, listed], rfl⟩
    · -- A new branch stands in front of all that are there, or the first one is passed over.
      split at listed
      · simp only [toList, List.mem_cons] at listed
        rcases listed with rfl | rfl | listed
        · exact .inl rfl
        · exact .inr ⟨(first, ⟨messages, below⟩), by simp [toList], rfl⟩
        · exact .inr ⟨entry, by simp [toList, listed], rfl⟩
      · simp only [toList, List.mem_cons] at listed
        rcases listed with rfl | listed
        · exact .inr ⟨(first, ⟨messages, below⟩), by simp [toList], rfl⟩
        · rcases ih listed with same | ⟨old, member, same⟩
          · exact .inl same
          · exact .inr ⟨old, by simp [toList, member], same⟩

/-- What is found below a route of an ordered level is ordered. -/
theorem Ordered.child {branches : ErrorBranches} (ordered : branches.Ordered) {route : String}
    {node : ErrorNode} (found : branches.child? route = some node) : node.children.Ordered := by
  -- It is what lies below one of the branches.
  induction branches with
  | nil => simp [child?] at found
  | cons first messages below rest _ ih =>
    obtain ⟨-, inner, behind⟩ := ordered
    rw [child?] at found
    split at found
    · obtain rfl := Option.some.inj found
      exact inner
    · exact ih behind found

/-- A change that leaves what is below a node ordered leaves a level ordered. -/
theorem Ordered.alter {branches : ErrorBranches} (ordered : branches.Ordered) (route : String)
    {change : ErrorNode → ErrorNode}
    (keeps : ∀ node : ErrorNode, node.children.Ordered → (change node).children.Ordered) :
    (branches.alter route change).Ordered := by
  -- A new route is put in front of the first one above it.
  induction branches with
  | nil => exact ⟨by simp [toList], keeps .empty trivial, trivial⟩
  | cons first messages below rest _ ih =>
    obtain ⟨lowest, inner, behind⟩ := ordered
    rw [ErrorBranches.alter]
    split
    · exact ⟨lowest, keeps ⟨messages, below⟩ inner, behind⟩
    · next other =>
      split
      · next before =>
        refine ⟨fun entry listed => ?_, keeps .empty trivial, lowest, inner, behind⟩
        rcases List.mem_cons.1 listed with rfl | listed
        · exact before
        · exact String.lt_trans before (lowest entry listed)
      · next above =>
        -- What is listed behind is the new route or an old one, and the first is below both.
        refine ⟨fun entry listed => ?_, inner, ih behind⟩
        rcases mem_routes_alter listed with same | ⟨old, member, same⟩
        · rw [same]
          grind
        · exact same ▸ lowest old member

/-- Joining ordered levels gives an ordered level. -/
theorem Ordered.merge {left right : ErrorBranches} (ordered : left.Ordered)
    (ordered' : right.Ordered) : (left.merge right).Ordered := by
  -- The branches of the right side are put into the left side one after the other.
  induction right generalizing left with
  | nil => rwa [ErrorBranches.merge]
  | cons route messages below rest inner others =>
    obtain ⟨-, under, behind⟩ := ordered'
    rw [ErrorBranches.merge]
    exact others (ordered.alter route fun node kept => inner kept under) behind

end ErrorBranches

end Navigation
