import Mathlib.Data.List.Sort
import Navigation.NameSet

/-! A set of names is known from its list, and from its members. -/

namespace Navigation.NameSet

/-- A set is known from the list of its names. -/
theorem eq_of_names {set other : NameSet} (same : set.names = other.names) : set = other := by
  -- The proof that they ascend tells nothing apart.
  cases set
  cases other
  simpa using same

/-- A set is known from its members, since they can be listed in one way only. -/
theorem eq_of_mem_iff {set other : NameSet} (same : ∀ name, name ∈ set ↔ name ∈ other) :
    set = other :=
  -- Two ascending lists with the same members are equal.
  eq_of_names (set.ascending.eq_of_mem_iff other.ascending same)

end Navigation.NameSet
