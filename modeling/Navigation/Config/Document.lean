import Navigation.Config.Basic
import Navigation.Toml.Reader

/-! Settings read from a TOML document, which overlays the defaults field by field. -/

namespace Navigation

/-- A field of a record: its key, and how a TOML value becomes its value. -/
structure Field (α : Type) where
  key : String
  put : Toml.Value → α → Option α

namespace Field

/-- A field that holds a text. -/
def text {α : Type} (key : String) (set : String → α → α) : Field α :=
  ⟨key, fun value record =>
    match value with
    | .text value => some (set value record)
    | _ => none⟩

/-- A field that holds a path. -/
def path {α : Type} (key : String) (set : Path → α → α) : Field α :=
  text key fun value record => set ⟨value⟩ record

/-- A field that holds a switch. -/
def flag {α : Type} (key : String) (set : Bool → α → α) : Field α :=
  ⟨key, fun value record =>
    match value with
    | .flag value => some (set value record)
    | _ => none⟩

/-- A record overlaid with the entries of a table; every key has to be one of the fields. -/
def overlay {α : Type} (fields : List (Field α)) (record : α) (entries : Toml.Entries) :
    Option α :=
  entries.foldlM
    (fun record entry =>
      match fields.find? (·.key == entry.1) with
      | some field => field.put entry.2 record
      | none => none)
    record

/-- A record overlaid with values in the order of the fields; there may be too few, or too many. -/
def overlayItems {α : Type} (fields : List (Field α)) (record : α) (items : List Toml.Value) :
    Option α :=
  (fields.zip items).foldlM (fun record pair => pair.1.put pair.2 record) record

/-- A field that holds a record, given as a table or as an array. -/
def record {α β : Type} (key : String) (fields : List (Field β)) (default : β)
    (set : β → α → α) : Field α :=
  ⟨key, fun value whole =>
    match value with
    | .table _ entries => (overlay fields default entries).map fun part => set part whole
    | .array _ items => (overlayItems fields default items).map fun part => set part whole
    | _ => none⟩

end Field

namespace OutputSettings

/-- The fields of the `output` table. -/
def fields : List (Field OutputSettings) :=
  [.text "package" fun value settings => { settings with package := value },
    .text "aggregate_name" fun value settings => { settings with aggregateName := value },
    .text "sealed_destination_name" fun value settings =>
      { settings with sealedDestinationName := value },
    .text "file_extension" fun value settings => { settings with fileExtension := value },
    .path "directory" fun value settings => { settings with directory := value }]

end OutputSettings

namespace NamingSettings

/-- The fields of the `naming` table. -/
def fields : List (Field NamingSettings) :=
  [.text "nav_graph_type" fun value settings => { settings with graphType := value },
    .text "nav_graphs_object" fun value settings => { settings with graphsObject := value }]

end NamingSettings

namespace Capabilities

/-- The fields of the `capabilities` table. -/
def fields : List (Field Capabilities) :=
  [.flag "animation" fun value settings => { settings with animation := value },
    .flag "material" fun value settings => { settings with material := value }]

end Capabilities

namespace TemplatePaths

/-- The fields of the `templates` table. -/
def fields : List (Field TemplatePaths) :=
  [.path "aggregate" fun value paths => { paths with aggregate := value },
    .path "sealed_destination" fun value paths => { paths with sealedDestination := value },
    .path "inner_nav_host" fun value paths => { paths with plainHost := value },
    .path "inner_animated_nav_host" fun value paths => { paths with animatedHost := value },
    .path "imports" fun value paths => { paths with imports := value },
    .path "animated_imports" fun value paths => { paths with animatedImports := value }]

end TemplatePaths

namespace InputSettings

/-- The fields of the `input` table. -/
def fields : List (Field InputSettings) :=
  [.path "manifest" fun value settings => { settings with manifest := value }]

end InputSettings

namespace Config

/-- The tables a document of settings may have. -/
def fields : List (Field Config) :=
  [.record "output" OutputSettings.fields {} fun value config => { config with output := value },
    .record "naming" NamingSettings.fields {} fun value config => { config with naming := value },
    .record "capabilities" Capabilities.fields {} fun value config =>
      { config with capabilities := value },
    .record "templates" TemplatePaths.fields {} fun value config =>
      { config with templates := value },
    .record "input" InputSettings.fields {} fun value config => { config with input := value }]

/-- The settings that the entries of a document make of the defaults. -/
def ofEntries (entries : Toml.Entries) : Except ConfigError Config := do
  match Field.overlay fields {} entries with
  | none => .error .malformed
  | some config =>
    config.validate
    return config

/-- The valid settings that a document holds. -/
def parse (source : String) : Except ConfigError Config :=
  match Toml.parse? source with
  | none => .error .malformed
  | some entries => ofEntries entries

end Config

end Navigation
