import Navigation.Proofs.Manifest.Fields

/-! Objects that say what a destination is: those that are written, and what all of them read as. -/

namespace Navigation.Manifest

/-- The entries of an object. -/
abbrev Entries :=
  List (Option String × Json.Value)

/-- An entry that gives a field a value. -/
def entry (pair : DestinationField × Json.Value) : Option String × Json.Value :=
  (some pair.1.key, pair.2)

/-- Whether the entries of an object say what a destination is. -/
structure Spells (destination : Destination) (entries : Entries) : Prop where
  /-- No key is repeated. -/
  distinct : (entries.map Prod.fst).Nodup
  /-- Each entry tells of a field. -/
  told : ∀ given ∈ entries, ∃ field told, given = entry (field, told) ∧
    field.Tells destination told
  /-- A field without an entry has its default. -/
  left : ∀ field : DestinationField, some field.key ∉ entries.map Prod.fst →
    field.default? = some (field.value destination)

section

variable {destination : Destination} {entries others rest : Entries} {field : DestinationField}
  {default : Json.Value}

/-- The order of entries does not matter to what they say. -/
theorem Spells.perm (spells : Spells destination entries) (reordered : entries.Perm others) :
    Spells destination others := by
  -- Neither what is told nor what is left depends on where an entry stands.
  have keys := reordered.map Prod.fst
  exact ⟨keys.nodup_iff.1 spells.distinct,
    fun given listed => spells.told given (reordered.mem_iff.2 listed),
    fun field absent => spells.left field (mt keys.mem_iff.1 absent)⟩

/-- The entry in front tells of its field. -/
theorem Spells.head {told : Json.Value}
    (spells : Spells destination (entry (field, told) :: rest)) :
    field.Tells destination told := by
  -- The entry is that of some field, and its key says of which.
  obtain ⟨other, given, same, tells⟩ := spells.told _ List.mem_cons_self
  simp only [entry, Prod.mk.injEq, Option.some.injEq] at same
  rw [DestinationField.key_injective same.1, same.2]
  exact tells

/-- Without an entry that has a default, the others say as much. -/
theorem Spells.leaveOut (spells : Spells destination (entry (field, default) :: rest))
    (known : field.default? = some default) : Spells destination rest := by
  refine ⟨(List.nodup_cons.1 spells.distinct).2,
    fun given listed => spells.told given (List.mem_cons_of_mem _ listed), fun other absent => ?_⟩
  by_cases same : other = field
  · -- The field that was left out had what the destination has.
    rw [same, known, DestinationField.value_of_tells_default known spells.head]
  · -- Of any other field, the entries say what they said.
    have apart : some other.key ≠ some field.key :=
      fun keys => same (DestinationField.key_injective (Option.some.inj keys))
    exact spells.left other (by simpa [entry, apart] using absent)

/-- With one more field that tells the same, entries say as much. -/
theorem Spells.cons {told : Json.Value} (spells : Spells destination rest)
    (absent : some field.key ∉ rest.map Prod.fst) (tells : field.Tells destination told) :
    Spells destination (entry (field, told) :: rest) := by
  -- The entry in front is told by assumption, and fewer fields are left than before.
  refine ⟨List.nodup_cons.2 ⟨absent, spells.distinct⟩, ?_, fun other unnamed => ?_⟩
  · rw [List.forall_mem_cons]
    exact ⟨⟨field, told, rfl, tells⟩, spells.told⟩
  · exact spells.left other fun listed => unnamed (List.mem_cons_of_mem _ listed)

/-- An entry that tells of its field may tell of it in another way. -/
theorem Spells.retell {told retold : Json.Value}
    (spells : Spells destination (entry (field, told) :: rest))
    (tells : field.Tells destination retold) :
    Spells destination (entry (field, retold) :: rest) := by
  -- The keys are the same as before.
  refine ⟨spells.distinct, ?_, spells.left⟩
  rw [List.forall_mem_cons]
  exact ⟨⟨field, retold, rfl, tells⟩,
    fun given listed => spells.told given (List.mem_cons_of_mem _ listed)⟩

/-- Every field written out, in the order of the fields, says what a destination is. -/
theorem spells_written (destination : Destination) :
    Spells destination
      (DestinationField.all.map fun field => entry (field, field.value destination)) := by
  refine ⟨?distinct, ?told, ?left⟩
  case distinct =>
    rw [List.map_map]
    show (DestinationField.all.map fun field => some field.key).Nodup
    decide
  case told =>
    rw [List.forall_mem_map]
    exact fun field _ => ⟨field, _, rfl, field.tells_value destination⟩
  case left =>
    -- No field is left.
    intro field absent
    rw [List.map_map] at absent
    exact absurd (List.mem_map_of_mem (DestinationField.mem_all field)) absent

/-- An entry that is written only unless it has a default says as much. -/
theorem Spells.entryUnless {front back : Entries} {told : Json.Value} {isDefault : Bool}
    (spells : Spells destination (front ++ entry (field, told) :: back))
    (known : isDefault = true → field.default? = some told) :
    Spells destination (front ++ (entryUnless isDefault field told ++ back)) := by
  cases isDefault with
  | false => exact spells
  | true =>
    -- What is not written could have been left out of any entries.
    exact (spells.perm List.perm_middle).leaveOut (known rfl)

/-- The object that a destination is written as says what it is. -/
theorem spells_encodeDestination (destination : Destination) :
    ∃ entries, encodeDestination destination = .object entries ∧ Spells destination entries := by
  -- All fields are written, but for collections that are empty.
  have optIns : destination.optIns.isEmpty = true →
      DestinationField.optIns.default? = some (.ofTexts destination.optIns.names) := by
    intro empty
    rw [List.isEmpty_iff.1 empty]
    rfl
  have sourceIds : destination.sourceIds.isEmpty = true →
      DestinationField.sourceIds.default? = some (.ofTexts destination.sourceIds) := by
    intro empty
    rw [List.isEmpty_iff.1 empty]
    rfl
  -- The two collections are left out one after the other from all six fields.
  let always : Entries :=
    [DestinationField.simpleName, .route, .graphRoute, .isStart].map fun field =>
      entry (field, field.value destination)
  have written : Spells destination (always ++ entry (.optIns, _) :: [entry (.sourceIds, _)]) :=
    spells_written destination
  have shorter := written.entryUnless optIns
  rw [← List.append_assoc] at shorter
  have shortest := shorter.entryUnless sourceIds
  rw [List.append_nil] at shortest
  exact ⟨_, rfl, shortest⟩

/-- Entries that spell a destination give fields their values. -/
theorem Spells.exists_given (spells : Spells destination entries) :
    ∃ given : List (DestinationField × Json.Value), entries = given.map entry ∧
      ∀ pair ∈ given, pair.1.Tells destination pair.2 := by
  -- The entries are followed one by one, for which it is enough that each tells of a field.
  have told := spells.told
  clear spells
  induction entries with
  | nil => exact ⟨[], rfl, by simp⟩
  | cons first rest ih =>
    obtain ⟨⟨field, value, rfl, tells⟩, others⟩ := List.forall_mem_cons.1 told
    obtain ⟨given, rfl, all⟩ := ih others
    exact ⟨(field, value) :: given, rfl, List.forall_mem_cons.2 ⟨tells, all⟩⟩

/-- The fields are found again among the entries that give them values. -/
theorem known?_map_entry (given : List (DestinationField × Json.Value)) :
    known? (given.map entry) = some given := by
  -- Each key is that of the field it was made from.
  induction given with
  | nil => rfl
  | cons pair rest ih => simp [entry, known?, ← ih]

/-- Fields that are given values are given them once, and the others have their defaults. -/
theorem Spells.fields {given : List (DestinationField × Json.Value)}
    (spells : Spells destination (given.map entry)) :
    (given.map Prod.fst).Nodup ∧ ∀ field ∉ given.map Prod.fst,
      field.default? = some (field.value destination) := by
  -- The keys of the entries are those of the fields.
  have keys : (given.map entry).map Prod.fst =
      (given.map Prod.fst).map fun field => some field.key := by
    simp only [List.map_map]
    rfl
  obtain ⟨distinct, -, left⟩ := spells
  rw [keys] at distinct left
  refine ⟨distinct.of_map _, fun field unnamed => left field fun listed => unnamed ?_⟩
  obtain ⟨other, named, same⟩ := List.mem_map.1 listed
  rwa [← DestinationField.key_injective (Option.some.inj same)]

/-- An object that says what a destination is, is read as that destination. -/
theorem Spells.destination? (spells : Spells destination entries) :
    destination? (.object entries) = some destination := by
  obtain ⟨given, rfl, tells⟩ := spells.exists_given
  obtain ⟨distinct, left⟩ := spells.fields
  -- Each field is named once, and those that are not named may be left out.
  have complete : (given.map Prod.fst).Nodup ∧
      ∀ field ∈ DestinationField.all, field.isRequired → field ∈ given.map Prod.fst := by
    refine ⟨distinct, fun field _ required => ?_⟩
    by_contra unnamed
    have none := DestinationField.default?_eq_none_iff.2 required
    rw [left field unnamed] at none
    exact absurd none nofun
  show (known? (given.map entry)).bind assemble? = some destination
  rw [known?_map_entry, Option.bind_some, assemble?, if_pos complete]
  -- Each entry puts its field, and the others start with their defaults.
  refine Record.foldlM_eq_some DestinationField.eq_of_value_eq Function.injective_id distinct
    (fun pair listed => ⟨pair.1, rfl, puts_of_tells (tells pair listed)⟩) fun field unnamed => ?_
  exact DestinationField.value_of_default? (left field unnamed) _ _

/-- Each field that is found among entries has one of them. -/
theorem mem_of_known? {given : List (DestinationField × Json.Value)}
    (found : known? entries = some given) : ∀ pair ∈ given, entry pair ∈ entries := by
  induction entries generalizing given with
  | nil => simp [← Option.some.inj found]
  | cons first rest ih =>
    obtain ⟨key?, value⟩ := first
    cases key? with
    | none => exact absurd found nofun
    | some key =>
      rw [known?] at found
      cases named : DestinationField.ofKey? key with
      | none =>
        -- A key that means nothing is passed over.
        simp only [named] at found
        exact fun pair listed => List.mem_cons_of_mem _ (ih found pair listed)
      | some field =>
        simp only [named] at found
        -- A known field stands under its own key.
        obtain ⟨more, behind, rfl⟩ := Option.map_eq_some_iff.1 found
        rw [List.forall_mem_cons]
        refine ⟨?_, fun pair listed => List.mem_cons_of_mem _ (ih behind pair listed)⟩
        rw [entry, DestinationField.key_of_ofKey? named]
        exact List.mem_cons_self

/-- An object without an entry for a required field is no destination. -/
theorem destination?_of_absent (required : field.isRequired = true)
    (absent : some field.key ∉ entries.map Prod.fst) : destination? (.object entries) = none := by
  -- If the entries can be looked through at all, the field is not among those that are found.
  show (known? entries).bind assemble? = none
  cases found : known? entries with
  | none => rfl
  | some given =>
    rw [Option.bind_some, assemble?, if_neg]
    rintro ⟨-, complete⟩
    obtain ⟨pair, listed, rfl⟩ :=
      List.mem_map.1 (complete field (DestinationField.mem_all field) required)
    exact absent (List.mem_map_of_mem (mem_of_known? found pair listed))

end

end Navigation.Manifest
