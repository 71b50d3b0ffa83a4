import Mathlib.Logic.Function.Basic
import Navigation.Config.Document
import Navigation.Proofs.Record

/-! Every single setting: the table it stands in, its key there, and how its value is read. -/

namespace Navigation.Config

/-- The tables that a document of settings may have. -/
inductive Table where
  | output
  | naming
  | capabilities
  | templates
  | input

namespace Table

/-- Every table, in the order of the parts of settings. -/
def all : List Table :=
  [.output, .naming, .capabilities, .templates, .input]

/-- The key of a table in a document. -/
def key : Table → String
  | .output => "output"
  | .naming => "naming"
  | .capabilities => "capabilities"
  | .templates => "templates"
  | .input => "input"

/-- What a table is read as. -/
abbrev Part : Table → Type
  | .output => OutputSettings
  | .naming => NamingSettings
  | .capabilities => Capabilities
  | .templates => TemplatePaths
  | .input => InputSettings

/-- The fields of a table. -/
def fields : (table : Table) → List (Field table.Part)
  | .output => OutputSettings.fields
  | .naming => NamingSettings.fields
  | .capabilities => Capabilities.fields
  | .templates => TemplatePaths.fields
  | .input => InputSettings.fields

/-- The part of settings that a table is read as. -/
def part (config : Config) : (table : Table) → table.Part
  | .output => config.output
  | .naming => config.naming
  | .capabilities => config.capabilities
  | .templates => config.templates
  | .input => config.input

/-- Settings with another part. -/
def withPart (config : Config) : (table : Table) → table.Part → Config
  | .output, part => { config with output := part }
  | .naming, part => { config with naming := part }
  | .capabilities, part => { config with capabilities := part }
  | .templates, part => { config with templates := part }
  | .input, part => { config with input := part }

/-- What a part of settings is without a table for it. -/
def defaults (table : Table) : table.Part :=
  table.part {}

/-- Tables have different keys. -/
theorem key_injective : Function.Injective key := by
  -- Each of the five keys is compared with each.
  intro table other same
  cases table <;> cases other <;> first | rfl | exact absurd same (by decide)

/-- The field of a document that holds a table. -/
def field (table : Table) : Field Config :=
  .record table.key table.fields table.defaults fun part config => table.withPart config part

/-- A document has these tables, and no others. -/
theorem fields_eq : Config.fields = all.map field :=
  rfl

/-- A part that is put in is there. -/
theorem part_withPart_self (table : Table) (config : Config) (part : table.Part) :
    table.part (table.withPart config part) = part := by
  -- Each table is a field of its own.
  cases table <;> rfl

/-- The other parts are as they were. -/
theorem part_withPart_of_ne {table other : Table} (apart : other ≠ table) (config : Config)
    (part : table.Part) : other.part (table.withPart config part) = other.part config := by
  -- Each table is a field of its own, so no other one is changed.
  cases table <;> cases other <;> first | rfl | exact absurd rfl apart

/-- Settings are known from their parts. -/
theorem eq_of_part_eq (first second : Config)
    (same : ∀ table : Table, table.part first = table.part second) : first = second := by
  -- Settings are made up of their five tables.
  have output : first.output = second.output := same .output
  have naming : first.naming = second.naming := same .naming
  have capabilities : first.capabilities = second.capabilities := same .capabilities
  have templates : first.templates = second.templates := same .templates
  have input : first.input = second.input := same .input
  cases first
  cases second
  simp only [Config.mk.injEq]
  exact ⟨output, naming, capabilities, templates, input⟩

/-- A table is found by its key. -/
theorem find?_key (table : Table) :
    Config.fields.find? (·.key == table.key) = some table.field := by
  -- No two tables have one key.
  cases table <;> rfl

/-- A key that no table has is not found. -/
theorem find?_of_unknown {key : String} (unknown : ∀ table : Table, table.key ≠ key) :
    Config.fields.find? (·.key == key) = none := by
  -- Every field of a document is that of a table.
  rw [fields_eq, List.find?_eq_none]
  intro found listed
  obtain ⟨table, -, rfl⟩ := List.mem_map.1 listed
  simpa [field, Field.record] using unknown table

end Table

/-- The single settings of each table. -/
inductive Setting : Table → Type where
  | package : Setting .output
  | aggregateName : Setting .output
  | sealedDestinationName : Setting .output
  | fileExtension : Setting .output
  | directory : Setting .output
  | graphType : Setting .naming
  | graphsObject : Setting .naming
  | animation : Setting .capabilities
  | material : Setting .capabilities
  | aggregate : Setting .templates
  | sealedDestination : Setting .templates
  | plainHost : Setting .templates
  | animatedHost : Setting .templates
  | imports : Setting .templates
  | animatedImports : Setting .templates
  | manifest : Setting .input

namespace Setting

/-- Every setting of a table, in the order of the table's fields. -/
def all : (table : Table) → List (Setting table)
  | .output => [.package, .aggregateName, .sealedDestinationName, .fileExtension, .directory]
  | .naming => [.graphType, .graphsObject]
  | .capabilities => [.animation, .material]
  | .templates =>
    [.aggregate, .sealedDestination, .plainHost, .animatedHost, .imports, .animatedImports]
  | .input => [.manifest]

variable {table : Table}

/-- The key of a setting in its table. -/
def key : {table : Table} → Setting table → String
  | _, .package => "package"
  | _, .aggregateName => "aggregate_name"
  | _, .sealedDestinationName => "sealed_destination_name"
  | _, .fileExtension => "file_extension"
  | _, .directory => "directory"
  | _, .graphType => "nav_graph_type"
  | _, .graphsObject => "nav_graphs_object"
  | _, .animation => "animation"
  | _, .material => "material"
  | _, .aggregate => "aggregate"
  | _, .sealedDestination => "sealed_destination"
  | _, .plainHost => "inner_nav_host"
  | _, .animatedHost => "inner_animated_nav_host"
  | _, .imports => "imports"
  | _, .animatedImports => "animated_imports"
  | _, .manifest => "manifest"

/-- What a setting is, as a value of a document. -/
def value : {table : Table} → table.Part → Setting table → Toml.Value
  | _, part, .package => .text (OutputSettings.package part)
  | _, part, .aggregateName => .text (OutputSettings.aggregateName part)
  | _, part, .sealedDestinationName => .text (OutputSettings.sealedDestinationName part)
  | _, part, .fileExtension => .text (OutputSettings.fileExtension part)
  | _, part, .directory => .text (OutputSettings.directory part).text
  | _, part, .graphType => .text (NamingSettings.graphType part)
  | _, part, .graphsObject => .text (NamingSettings.graphsObject part)
  | _, part, .animation => .flag (Capabilities.animation part)
  | _, part, .material => .flag (Capabilities.material part)
  | _, part, .aggregate => .text (TemplatePaths.aggregate part).text
  | _, part, .sealedDestination => .text (TemplatePaths.sealedDestination part).text
  | _, part, .plainHost => .text (TemplatePaths.plainHost part).text
  | _, part, .animatedHost => .text (TemplatePaths.animatedHost part).text
  | _, part, .imports => .text (TemplatePaths.imports part).text
  | _, part, .animatedImports => .text (TemplatePaths.animatedImports part).text
  | _, part, .manifest => .text (InputSettings.manifest part).text

/-- The settings of a table have the keys of its fields. -/
theorem map_key_all (table : Table) : (all table).map key = table.fields.map Field.key := by
  -- The settings of a table are listed as its fields are.
  cases table <;> rfl

/-- The settings of a table have different keys. -/
theorem key_injective : Function.Injective (key : Setting table → String) := by
  -- Two settings of one table are told apart by comparing each with each.
  intro setting other same
  cases setting <;> cases other <;> first | rfl | exact absurd same (by decide)

/-- A part is known from its settings. -/
theorem eq_of_value_eq {table : Table} (first second : table.Part)
    (same : ∀ setting : Setting table, setting.value first = setting.value second) :
    first = second := by
  -- A path is known from its text, and all other settings are texts and switches themselves.
  have path {first second : Path} (texts : Toml.Value.text first.text = .text second.text) :
      first = second := by
    cases first
    cases second
    exact congrArg Path.mk (Toml.Value.text.inj texts)
  -- Parts of the same table are equal if all of their fields are.
  cases table with
  | output =>
    have package := Toml.Value.text.inj (same .package)
    have aggregateName := Toml.Value.text.inj (same .aggregateName)
    have sealedDestinationName := Toml.Value.text.inj (same .sealedDestinationName)
    have fileExtension := Toml.Value.text.inj (same .fileExtension)
    have directory := path (same .directory)
    cases first
    cases second
    exact (OutputSettings.mk.injEq ..).mpr
      ⟨package, aggregateName, sealedDestinationName, fileExtension, directory⟩
  | naming =>
    have graphType := Toml.Value.text.inj (same .graphType)
    have graphsObject := Toml.Value.text.inj (same .graphsObject)
    cases first
    cases second
    exact (NamingSettings.mk.injEq ..).mpr ⟨graphType, graphsObject⟩
  | capabilities =>
    have animation := Toml.Value.flag.inj (same .animation)
    have material := Toml.Value.flag.inj (same .material)
    cases first
    cases second
    exact (Capabilities.mk.injEq ..).mpr ⟨animation, material⟩
  | templates =>
    have aggregate := path (same .aggregate)
    have sealedDestination := path (same .sealedDestination)
    have plainHost := path (same .plainHost)
    have animatedHost := path (same .animatedHost)
    have imports := path (same .imports)
    have animatedImports := path (same .animatedImports)
    cases first
    cases second
    exact (TemplatePaths.mk.injEq ..).mpr
      ⟨aggregate, sealedDestination, plainHost, animatedHost, imports, animatedImports⟩
  | input =>
    have manifest := path (same .manifest)
    cases first
    cases second
    exact congrArg InputSettings.mk manifest

/-- The field with the key of a setting is found, and it puts the setting, and no other. -/
theorem exists_puts (setting : Setting table) (part : table.Part) :
    ∃ field, table.fields.find? (·.key == setting.key) = some field ∧
      Record.Puts (fun setting record => Setting.value record setting) part setting
        fun record => field.put (setting.value part) record := by
  -- The field sets one content of a record, where no other setting looks.
  cases setting <;>
    refine ⟨_, rfl, fun record => ⟨_, rfl, rfl, fun other apart => ?_⟩⟩ <;>
    cases other <;> first | rfl | exact absurd rfl apart

/-- A key that no setting of a table has is not found there. -/
theorem find?_of_unknown {key : String} (unknown : ∀ setting : Setting table, setting.key ≠ key) :
    table.fields.find? (·.key == key) = none := by
  rw [List.find?_eq_none]
  intro field listed
  -- The field has the key of a setting.
  have keys : field.key ∈ (all table).map Setting.key :=
    map_key_all table ▸ List.mem_map_of_mem listed
  obtain ⟨setting, -, same⟩ := List.mem_map.1 keys
  simpa [← same] using unknown setting

end Setting

end Navigation.Config
