import Mathlib.Data.List.Basic

/-! Writings that tell where they end, so that no two readings of a text are possible. -/

namespace Navigation

variable {α : Type}

/-- Whether a value can be read off the front of a text that starts with what it is written as. -/
def Delimited (fit : α → Prop) (write : α → List Char) : Prop :=
  ∀ ⦃a b : α⦄, fit a → fit b → ∀ ⦃rest other : List Char⦄,
    write a ++ rest = write b ++ other → a = b ∧ rest = other

namespace Delimited

/-- A text ends at the first character that it cannot have. -/
theorem upTo (stop : Char) : Delimited (stop ∉ ·) (· ++ [stop]) := by
  -- The two texts have their characters in common, up to the character that ends both.
  intro a b fit fit' rest other same
  simp only [List.append_assoc, List.singleton_append] at same
  induction a generalizing b with
  | nil =>
    cases b with
    | nil => exact ⟨rfl, List.tail_eq_of_cons_eq same⟩
    | cons d b => exact absurd (List.head_eq_of_cons_eq same) (List.ne_of_not_mem_cons fit')
  | cons c a ih =>
    cases b with
    | nil => exact absurd (List.head_eq_of_cons_eq same).symm (List.ne_of_not_mem_cons fit)
    | cons d b =>
      obtain ⟨rfl, behind⟩ := List.cons_eq_cons.1 same
      obtain ⟨rfl, ends⟩ :=
        ih (List.not_mem_of_not_mem_cons fit) (List.not_mem_of_not_mem_cons fit') behind
      exact ⟨rfl, ends⟩

/-- What stands around every value does not hide the values. -/
theorem framed {fit : α → Prop} {write : α → List Char} (delimited : Delimited fit write)
    (front back : List Char) : Delimited fit fun a => front ++ (write a ++ back) := by
  -- The front is taken off first, then the value, and then the back.
  intro a b fit fit' rest other same
  simp only [List.append_assoc] at same
  obtain ⟨rfl, ends⟩ := delimited fit fit' (List.append_cancel_left same)
  exact ⟨rfl, List.append_cancel_left ends⟩

/-- Values that can be told by a part of them are read back where that part is written. -/
theorem of_injective {β : Type} {fit : α → Prop} {write : α → List Char}
    (delimited : Delimited fit write) {part : β → α} (injective : Function.Injective part) :
    Delimited (fun b => fit (part b)) fun b => write (part b) := by
  -- The part is read back first, and it gives back what it is a part of.
  intro a b fit fit' rest other same
  obtain ⟨parts, ends⟩ := delimited fit fit' same
  exact ⟨injective parts, ends⟩

/--
A list of values can be read back, together with what stands behind it.

Each value is announced by the same characters, and what stands behind the list by none of them.
-/
theorem list {fit : α → Prop} {write : α → List Char} (delimited : Delimited fit write)
    {front : List Char} (announced : ∀ a, front <+: write a) {as bs : List α}
    (fits : ∀ a ∈ as, fit a) (fits' : ∀ b ∈ bs, fit b) {rest other : List Char}
    (stop : ¬ front <+: rest) (stop' : ¬ front <+: other)
    (same : as.flatMap write ++ rest = bs.flatMap write ++ other) : as = bs ∧ rest = other := by
  -- One value is read at a time, and both lists are at their end at once.
  induction as generalizing bs with
  | nil =>
    cases bs with
    | nil => exact ⟨rfl, by simpa using same⟩
    | cons b bs =>
      rw [List.flatMap_nil, List.nil_append, List.flatMap_cons, List.append_assoc] at same
      -- Only the second list goes on, but nothing is announced behind the first.
      exact absurd (same ▸ (announced b).trans (List.prefix_append _ _)) stop
  | cons a as ih =>
    rw [List.flatMap_cons, List.append_assoc] at same
    cases bs with
    | nil =>
      rw [List.flatMap_nil, List.nil_append] at same
      exact absurd (same ▸ (announced a).trans (List.prefix_append _ _)) stop'
    | cons b bs =>
      rw [List.flatMap_cons, List.append_assoc] at same
      obtain ⟨first, later⟩ := List.forall_mem_cons.1 fits
      obtain ⟨first', later'⟩ := List.forall_mem_cons.1 fits'
      -- Both texts start with one value, which is read back from either.
      obtain ⟨rfl, behind⟩ := delimited first first' same
      obtain ⟨rfl, ends⟩ := ih later later' behind
      exact ⟨rfl, ends⟩

end Delimited

end Navigation
