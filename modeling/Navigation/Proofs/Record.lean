/-! Records put together one field after the other: the order of the fields does not matter. -/

namespace Navigation.Record

variable {κ ν α β : Type} {Content : κ → Type}

/-- Whether a step gives any record the content that a target has in one field, and no other. -/
def Puts (get : (field : κ) → α → Content field) (target : α) (field : κ)
    (step : α → Option α) : Prop :=
  ∀ record, ∃ result, step record = some result ∧ get field result = get field target ∧
    ∀ other, other ≠ field → get other result = get other record

/--
Entries make a record what the target is, if each of them puts one of the fields.

Fields that no entry is named after have to be right before.
-/
theorem foldlM_eq_some {get : (field : κ) → α → Content field}
    (known : ∀ first second, (∀ field, get field first = get field second) → first = second)
    {name : κ → ν} (injective : Function.Injective name) {label : β → ν}
    {step : α → β → Option α} {entries : List β} {start target : α}
    (distinct : (entries.map label).Nodup)
    (puts : ∀ entry ∈ entries, ∃ field, name field = label entry ∧
      Puts get target field fun record => step record entry)
    (left : ∀ field, name field ∉ entries.map label → get field start = get field target) :
    entries.foldlM step start = some target := by
  -- One entry after the other is put, and then its field is right as well.
  induction entries generalizing start with
  | nil => exact congrArg some (known start target fun field => left field (by simp))
  | cons entry rest ih =>
    obtain ⟨fresh, distinct⟩ := List.nodup_cons.1 distinct
    obtain ⟨first, puts⟩ := List.forall_mem_cons.1 puts
    obtain ⟨field, named, put⟩ := first
    obtain ⟨result, (stepped : step start entry = some result), own, others⟩ := put start
    rw [List.foldlM_cons, stepped]
    -- What is behind starts from the result.
    show rest.foldlM step result = some target
    refine ih distinct puts fun other unnamed => ?_
    by_cases same : other = field
    · rw [same, own]
    · -- Another field is as it was, and no entry is named after it.
      have apart : name other ≠ label entry := named ▸ injective.ne same
      rw [others other same, left other (by simp [apart, unnamed])]

/-- An entry that no record takes leaves nothing of the others. -/
theorem foldlM_eq_none {step : α → β → Option α} {entries : List β} {entry : β}
    (listed : entry ∈ entries) (refused : ∀ record, step record entry = none) (start : α) :
    entries.foldlM step start = none := by
  obtain ⟨earlier, later, rfl⟩ := List.append_of_mem listed
  -- Whatever was put before it, the entry is refused.
  rw [List.foldlM_append]
  cases earlier.foldlM step start with
  | none => rfl
  | some record =>
    show (entry :: later).foldlM step record = none
    rw [List.foldlM_cons, refused]
    rfl

end Navigation.Record
