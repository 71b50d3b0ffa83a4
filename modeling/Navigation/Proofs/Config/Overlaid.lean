import Mathlib
import Navigation.Proofs.Config
import Navigation.Proofs.Config.Settings

/-! Documents of settings: each setting they give replaces a default, and they give nothing else. -/

namespace Navigation.Config

namespace Table

variable {table : Table}

/-- Whether the entries of a table give chosen settings what they are, and have no other keys. -/
structure Gives (table : Table) (chosen : Setting table → Prop) (part : table.Part)
    (entries : Toml.Entries) : Prop where
  distinct : (entries.map Prod.fst).Nodup
  mem_iff : ∀ key value, (key, value) ∈ entries ↔
    ∃ setting : Setting table, chosen setting ∧ key = setting.key ∧ value = setting.value part

/-- The settings of a part that are not its defaults. -/
def Differs (part : table.Part) (setting : Setting table) : Prop :=
  setting.value part ≠ setting.value table.defaults

/-- A table that gives all that differs from the defaults is read as the part it was made from. -/
theorem Gives.overlay_eq {chosen : Setting table → Prop} {part : table.Part}
    {entries : Toml.Entries} (gives : table.Gives chosen part entries)
    (covers : ∀ setting, Differs part setting → chosen setting) :
    Field.overlay table.fields table.defaults entries = some part := by
  -- One entry after the other is put over the defaults.
  refine Record.foldlM_eq_some Setting.eq_of_value_eq Setting.key_injective gives.distinct
    (fun entry listed => ?_) fun setting absent => ?_
  · -- The field that is found by an entry's key takes the setting from the entry.
    obtain ⟨key, value⟩ := entry
    obtain ⟨setting, -, rfl, rfl⟩ := (gives.mem_iff key value).1 listed
    obtain ⟨field, found, puts⟩ := setting.exists_puts part
    refine ⟨setting, rfl, ?_⟩
    simp only [found]
    exact puts
  · -- A setting that is not given is the default.
    by_contra differs
    have listed := (gives.mem_iff _ _).2 ⟨setting, covers setting (Ne.symm differs), rfl, rfl⟩
    exact absent (List.mem_map_of_mem listed)

/-- A table with an unknown key is not read, whatever else it holds. -/
theorem overlay_eq_none_of_unknown {entries : Toml.Entries} {entry : String × Toml.Value}
    (listed : entry ∈ entries) (unknown : ∀ setting : Setting table, setting.key ≠ entry.1)
    (part : table.Part) : Field.overlay table.fields part entries = none :=
  -- The entry cannot be put anywhere, whatever was read before it.
  Record.foldlM_eq_none listed (fun _ => by simp only [Setting.find?_of_unknown unknown]) part

end Table

/-- Whether a document gives chosen settings what they are, each in its table, and nothing else.

A table without any chosen setting may be left out, or be empty. -/
structure Gives (chosen : (table : Table) → Setting table → Prop) (config : Config)
    (entries : Toml.Entries) : Prop where
  distinct : (entries.map Prod.fst).Nodup
  tables : ∀ entry ∈ entries, ∃ (table : Table) (origin : Toml.Origin) (inner : Toml.Entries),
    entry = (table.key, .table origin inner) ∧
      table.Gives (chosen table) (table.part config) inner
  complete : ∀ (table : Table) (setting : Setting table), chosen table setting →
    table.key ∈ entries.map Prod.fst

/-- Whether a document has a key that means nothing, outside of all tables or in one of them. -/
def HasUnknownKey (entries : Toml.Entries) : Prop :=
  (∃ entry ∈ entries, ∀ table : Table, table.key ≠ entry.1) ∨
    ∃ (table : Table) (origin : Toml.Origin) (inner : Toml.Entries),
      (table.key, .table origin inner) ∈ entries ∧
        ∃ entry ∈ inner, ∀ setting : Setting table, setting.key ≠ entry.1

/-- A document that gives all that differs from the defaults holds the settings it was made from. -/
theorem Gives.overlay_eq {chosen : (table : Table) → Setting table → Prop} {config : Config}
    {entries : Toml.Entries} (gives : config.Gives chosen entries)
    (covers : ∀ (table : Table) setting, Table.Differs (table.part config) setting →
      chosen table setting) :
    Field.overlay fields {} entries = some config := by
  refine Record.foldlM_eq_some Table.eq_of_part_eq Table.key_injective gives.distinct
    (fun entry listed => ?_) fun table absent => ?_
  · -- Each table is read over the defaults, and then put in its place.
    obtain ⟨table, origin, inner, rfl, given⟩ := gives.tables entry listed
    refine ⟨table, rfl, fun record => ⟨table.withPart record (table.part config), ?_,
      table.part_withPart_self record _,
      fun _ apart => Table.part_withPart_of_ne apart record _⟩⟩
    simp only [table.find?_key]
    simp [Table.field, Field.record, given.overlay_eq (covers table)]
  · -- Without a table, no setting of the part differs from its default.
    refine Setting.eq_of_value_eq _ _ fun setting => ?_
    by_contra differs
    exact absent (gives.complete table setting (covers table setting (Ne.symm differs)))

/-- A document with an unknown key is not read, whatever else it holds. -/
theorem overlay_eq_none_of_hasUnknownKey {entries : Toml.Entries}
    (unknown : HasUnknownKey entries) : Field.overlay fields {} entries = none := by
  -- One entry that is not read is enough, whether it is a setting or a table.
  obtain ⟨entry, listed, unknown⟩ | ⟨table, origin, inner, listed, entry, inside, unknown⟩ :=
    unknown
  · exact Record.foldlM_eq_none listed
      (fun _ => by simp only [Table.find?_of_unknown unknown]) _
  · -- The table is found, but its entries cannot be read.
    refine Record.foldlM_eq_none listed (fun record => ?_) _
    simp only [table.find?_key]
    simp [Table.field, Field.record, Table.overlay_eq_none_of_unknown inside unknown]

/--
A document overlays the defaults setting by setting, and may give any more than it has to.

So what a document leaves out cannot change with what it gives, and a key that is misspelt is
never passed over.
-/
theorem parse_of_gives :
    (∀ (config : Config) (chosen : (table : Table) → Setting table → Prop) (source : String)
      (entries : Toml.Entries),
      config.validate = .ok () →
      (∀ (table : Table) setting, Table.Differs (table.part config) setting →
        chosen table setting) →
      Toml.parse? source = some entries → config.Gives chosen entries →
      parse source = .ok config) ∧
    ∀ (source : String) (entries : Toml.Entries),
      Toml.parse? source = some entries → HasUnknownKey entries →
      parse source = .error .malformed := by
  refine ⟨fun config chosen source entries accepted covers read gives => ?_,
    fun source entries read unknown => ?_⟩
  · -- Settings that are accepted pass once they are read.
    rw [parse_eq, written?, read, Option.bind_some, gives.overlay_eq covers]
    simp only [accepted]
    rfl
  · rw [parse_eq, written?, read, Option.bind_some, overlay_eq_none_of_hasUnknownKey unknown]

/-- Tables and keys in an order of their own, one of them with its default, and a misspelt key. -/
theorem parse_of_gives_of_reordered_tables :
    let config : Config :=
      { output := { package := "com.a.nav" }, capabilities := { animation := true } }
    let source :=
      "[capabilities]\nanimation = true\n[output]\ndirectory = 'generated'\npackage = 'com.a.nav'"
    let chosen : (table : Table) → Setting table → Prop :=
      fun _ setting => setting.key ∈ ["animation", "directory", "package"]
    config.validate = .ok () ∧
      (∃ entries, Toml.parse? source = some entries ∧ config.Gives chosen entries) ∧
      parse source = .ok config ∧
      parse "[output]\npackge = 'x'" = .error .malformed := by
  intro config source chosen
  let switches : Toml.Entries := [("animation", .flag true)]
  let places : Toml.Entries := [("directory", .text "generated"), ("package", .text "com.a.nav")]
  let entries : Toml.Entries :=
    [("capabilities", .table .header switches), ("output", .table .header places)]
  have accepted : config.validate = .ok () := by decide +kernel
  have read : Toml.parse? source = some entries := by
    unfold source entries switches places
    cbv
  have covers : ∀ (table : Table) setting, Table.Differs (table.part config) setting →
      chosen table setting := by
    intro table setting differs
    cases setting with
    | animation | directory | package =>
      show _ ∈ ["animation", "directory", "package"]
      simp [Setting.key]
    | _ => exact absurd rfl differs -- All other settings are the defaults.
  -- Each of the two tables has one entry for each of its chosen settings.
  have switchesGiven : Table.capabilities.Gives (chosen _) config.capabilities switches := by
    refine ⟨by decide, fun key value => ⟨fun listed => ?_, ?_⟩⟩
    · cases List.mem_singleton.1 listed
      exact ⟨.animation, by decide, rfl, rfl⟩
    · rintro ⟨setting, given, rfl, rfl⟩
      cases setting with
      | animation => exact List.mem_cons_self
      | material => exact absurd given (by decide)
  have placesGiven : Table.output.Gives (chosen _) config.output places := by
    refine ⟨by decide, fun key value => ⟨fun listed => ?_, ?_⟩⟩
    · rcases List.mem_cons.1 listed with same | listed
      · cases same
        exact ⟨.directory, by decide, rfl, rfl⟩
      · cases List.mem_singleton.1 listed
        exact ⟨.package, by decide, rfl, rfl⟩
    · rintro ⟨setting, given, rfl, rfl⟩
      cases setting with
      | directory => exact List.mem_cons_self
      | package => exact List.mem_cons_of_mem _ List.mem_cons_self
      | _ => exact absurd given (by decide)
  -- The document has both tables, and no setting of another one is chosen.
  have gives : config.Gives chosen entries := by
    refine ⟨by decide, ?_, fun table setting given => ?_⟩
    · rw [List.forall_mem_cons, List.forall_mem_singleton]
      exact ⟨⟨.capabilities, .header, switches, rfl, switchesGiven⟩,
        ⟨.output, .header, places, rfl, placesGiven⟩⟩
    · change setting.key ∈ ["animation", "directory", "package"] at given
      cases setting <;> simp [Setting.key, Table.key, entries] at given ⊢
  -- The key of the last text is none of the table's own.
  have misspelt : Toml.parse? "[output]\npackge = 'x'" =
      some [("output", .table .header [("packge", .text "x")])] := by cbv
  obtain ⟨overlaid, unread⟩ := parse_of_gives
  refine ⟨accepted, ⟨entries, read, gives⟩,
    overlaid config chosen source entries accepted covers read gives, unread _ _ misspelt (.inr ?_)⟩
  refine ⟨.output, .header, _, List.mem_cons_self, _, List.mem_cons_self, fun setting => ?_⟩
  cases setting <;> decide

end Navigation.Config
