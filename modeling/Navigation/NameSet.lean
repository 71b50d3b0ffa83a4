/-! Finite sets of names, listed in ascending order of their code points. -/

namespace Navigation

/-- A set of names: each occurs once, and they ascend. -/
structure NameSet where
  names : List String
  ascending : names.Pairwise (· < ·)
  deriving DecidableEq

namespace NameSet

/-- Puts a name in its place in an ascending list, unless it is there already. -/
def place (name : String) : List String → List String
  | [] => [name]
  | first :: rest =>
    if name < first then name :: first :: rest
    else if name = first then first :: rest
    else first :: place name rest

/-- Placing a name adds that name and nothing else. -/
@[simp] theorem mem_place {name other : String} {names : List String} :
    other ∈ place name names ↔ other = name ∨ other ∈ names := by
  -- The name lands before, at, or behind the first element.
  induction names with
  | nil => simp [place]
  | cons first rest ih =>
    rw [place]
    split
    · simp
    · split
      · next same => simp [same]
      · simp [ih, or_left_comm]

/-- Placing a name keeps a list ascending. -/
theorem pairwise_place {name : String} {names : List String}
    (ascending : names.Pairwise (· < ·)) : (place name names).Pairwise (· < ·) := by
  -- A name that is neither below nor equal to the first element lies above it.
  induction names with
  | nil => simp [place]
  | cons first rest ih =>
    rw [List.pairwise_cons] at ascending
    rw [place]
    split
    · next below =>
      -- The name stands in front, and what is above the first element is above the name.
      refine List.pairwise_cons.2 ⟨fun other member => ?_, List.pairwise_cons.2 ascending⟩
      rcases List.mem_cons.1 member with rfl | member
      · exact below
      · exact String.lt_trans below (ascending.1 other member)
    · split
      · exact List.pairwise_cons.2 ascending
      · refine List.pairwise_cons.2 ⟨fun other member => ?_, ih ascending.2⟩
        rcases mem_place.1 member with rfl | member
        · grind
        · exact ascending.1 other member

/-- The set without names. -/
def empty : NameSet :=
  ⟨[], .nil⟩

/-- Adds one name. -/
def insert (name : String) (set : NameSet) : NameSet :=
  ⟨place name set.names, pairwise_place set.ascending⟩

/-- Adds every name of a list. -/
def insertAll (names : List String) (set : NameSet) : NameSet :=
  names.foldl (fun set name => set.insert name) set

/-- The set of the names in a list. -/
def ofList (names : List String) : NameSet :=
  empty.insertAll names

/-- The names that are in either set. -/
def union (left right : NameSet) : NameSet :=
  left.insertAll right.names

/-- Whether a set has no names. -/
def isEmpty (set : NameSet) : Bool :=
  set.names.isEmpty

instance : Membership String NameSet :=
  ⟨fun set name => name ∈ set.names⟩

/-- Membership is membership in the list of names. -/
theorem mem_iff {name : String} {set : NameSet} : name ∈ set ↔ name ∈ set.names :=
  Iff.rfl

/-- The empty set has no members. -/
@[simp] theorem not_mem_empty {name : String} : ¬ name ∈ empty := by
  -- There is no name that could be listed.
  simp [mem_iff, empty]

/-- Inserting a name adds that name and nothing else. -/
@[simp] theorem mem_insert {name other : String} {set : NameSet} :
    other ∈ set.insert name ↔ other = name ∨ other ∈ set :=
  mem_place

/-- Inserting a list of names adds exactly those. -/
@[simp] theorem mem_insertAll {other : String} {names : List String} {set : NameSet} :
    other ∈ set.insertAll names ↔ other ∈ names ∨ other ∈ set := by
  -- The fold inserts one name after the other.
  induction names generalizing set with
  | nil => simp [insertAll]
  | cons first rest ih =>
    have step : set.insertAll (first :: rest) = (set.insert first).insertAll rest := rfl
    rw [step, ih, mem_insert, List.mem_cons, or_left_comm, or_assoc]

/-- A set made from a list has the members of the list. -/
@[simp] theorem mem_ofList {other : String} {names : List String} :
    other ∈ ofList names ↔ other ∈ names := by
  -- The names are inserted into a set that has none.
  simp [ofList]

/-- A union has the members of both sets. -/
@[simp] theorem mem_union {other : String} {left right : NameSet} :
    other ∈ left.union right ↔ other ∈ left ∨ other ∈ right := by
  -- The names of the right side are inserted into the left one.
  simp [union, @mem_iff _ right, or_comm]

end NameSet

end Navigation
