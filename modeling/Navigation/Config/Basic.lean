import Navigation.Capabilities
import Navigation.Generation
import Navigation.IoError
import Navigation.Path

/-! The settings of a project: their defaults, what makes them valid, and how they are adjusted. -/

namespace Navigation

/-- Where the artifacts go, and what they are called. -/
structure OutputSettings where
  package : String := "destinations"
  aggregateName : String := "Destinations"
  sealedDestinationName : String := "Destination"
  fileExtension : String := "kt"
  directory : Path := ⟨"generated"⟩
  deriving DecidableEq

/-- The names of the declared type and object. -/
structure NamingSettings where
  graphType : String := "NavGraph"
  graphsObject : String := "NavGraphs"
  deriving DecidableEq

/-- Where the templates and import lists are. -/
structure TemplatePaths where
  aggregate : Path := ⟨"templates/aggregate.kt.tmpl"⟩
  sealedDestination : Path := ⟨"templates/destination.kt.tmpl"⟩
  plainHost : Path := ⟨"templates/inner_nav_host.kt.tmpl"⟩
  animatedHost : Path := ⟨"templates/inner_animated_nav_host.kt.tmpl"⟩
  imports : Path := ⟨"templates/imports.txt"⟩
  animatedImports : Path := ⟨"templates/animated_imports.txt"⟩
  deriving DecidableEq

/-- Where the destinations come from. -/
structure InputSettings where
  manifest : Path := ⟨"destinations.json"⟩
  deriving DecidableEq

/-- The settings of a project. -/
structure Config where
  output : OutputSettings := {}
  naming : NamingSettings := {}
  capabilities : Capabilities := {}
  templates : TemplatePaths := {}
  input : InputSettings := {}
  deriving DecidableEq

/-- Why there are no settings to work with. -/
inductive ConfigError where
  /-- A variable of the environment is no switch. -/
  | invalidSwitch (variableName value : String)
  /-- A setting has a value it must not have. -/
  | invalidValue (field value reason : String)
  /-- The file of the settings cannot be read. -/
  | unreadable (path : Path) (cause : IoError)
  /-- The file is not TOML, or does not hold settings. -/
  | malformed
  deriving DecidableEq

/-- The sentence a fault of the settings is reported by.

It ends, for a file that is malformed, in what the reader of TOML says about the file. -/
def ConfigError.message (error : ConfigError) (wording : String := "") : String :=
  match error with
  | .invalidSwitch variableName value =>
    variableName ++ " must be a flag (1/0, true/false, yes/no, on/off), got '" ++ value ++ "'"
  | .invalidValue field value reason => "invalid " ++ field ++ " '" ++ value ++ "': " ++ reason
  | .unreadable path cause => cause.readMessage path
  | .malformed => "failed to parse config: " ++ wording

namespace Config

/-- The name of the file that holds a project's settings. -/
def fileName : Path :=
  ⟨"navgen.toml"⟩

/-- The variable that overrides the animation switch. -/
def animationVariable : String :=
  "NAVGEN_ANIMATION"

/-- The variable that overrides the material switch. -/
def materialVariable : String :=
  "NAVGEN_MATERIAL"

/-- Whether a character can start an identifier. -/
def isIdentifierStart (c : Char) : Bool :=
  c.isAlpha || c == '_'

/-- Whether a character can be inside an identifier. -/
def isIdentifierPart (c : Char) : Bool :=
  c.isAlphanum || c == '_'

/-- Whether a text is an identifier: ASCII letters, digits and underscores, no digit first. -/
def isIdentifier : List Char → Bool
  | [] => false
  | c :: rest => isIdentifierStart c && rest.all isIdentifierPart

/-- Whether a text is a package: identifiers with dots between them. -/
def isPackage (text : List Char) : Bool :=
  (cutAt '.' text).all isIdentifier

/-- Whether a text can end the name of a file. -/
def isExtension (text : List Char) : Bool :=
  !text.isEmpty && text.all Char.isAlphanum

/-- Fails unless a setting meets its condition. -/
def demand (met : Bool) (field value reason : String) : Except ConfigError Unit :=
  if met then .ok () else .error (.invalidValue field value reason)

/-- Fails unless a setting is an identifier. -/
def demandIdentifier (field value : String) : Except ConfigError Unit :=
  demand (isIdentifier value.toList) field value "must be an identifier"

/-- Fails at the first setting that has a value it must not have. -/
def validate (config : Config) : Except ConfigError Unit := do
  let output := config.output
  demand (isPackage output.package.toList) "output.package" output.package
    "must be dot-separated identifiers"
  demandIdentifier "output.aggregate_name" output.aggregateName
  demandIdentifier "output.sealed_destination_name" output.sealedDestinationName
  demandIdentifier "naming.nav_graph_type" config.naming.graphType
  demandIdentifier "naming.nav_graphs_object" config.naming.graphsObject
  demand (output.aggregateName != output.sealedDestinationName)
    "output.sealed_destination_name" output.sealedDestinationName
    "must differ from output.aggregate_name"
  demand (isExtension output.fileExtension.toList) "output.file_extension" output.fileExtension
    "must be a non-empty alphanumeric extension"

/-- The position a text switches to, in any case of its letters and with blanks around it. -/
def switch? (text : String) : Option Bool :=
  let word := String.ofList ((trim text.toList).map Char.toLower)
  if ["1", "true", "yes", "on"].contains word then some true
  else if ["0", "false", "no", "off"].contains word then some false
  else none

/-- The position a variable overrides a switch with; without the variable it stays as it is. -/
def overridden (lookup : String → Option String) (variableName : String) (current : Bool) :
    Except ConfigError Bool :=
  match lookup variableName with
  | none => .ok current
  | some value =>
    match switch? value with
    | some position => .ok position
    | none => .error (.invalidSwitch variableName value)

/-- Settings whose switches the environment has overridden, animation first.

When a variable is no switch, what was overridden before it stays overridden. -/
def overrideFrom (lookup : String → Option String) (config : Config) :
    Config × Except ConfigError Unit :=
  match overridden lookup animationVariable config.capabilities.animation with
  | .error error => (config, .error error)
  | .ok animation =>
    let config := { config with capabilities := { config.capabilities with animation := animation } }
    match overridden lookup materialVariable config.capabilities.material with
    | .error error => (config, .error error)
    | .ok material =>
      ({ config with capabilities := { config.capabilities with material := material } }, .ok ())

/-- Settings whose paths are seen from a directory. -/
def resolved (base : Path) (config : Config) : Config :=
  let templates := config.templates
  { config with
    output := { config.output with directory := base.join config.output.directory }
    input := { config.input with manifest := base.join config.input.manifest }
    templates :=
      { aggregate := base.join templates.aggregate
        sealedDestination := base.join templates.sealedDestination
        plainHost := base.join templates.plainHost
        animatedHost := base.join templates.animatedHost
        imports := base.join templates.imports
        animatedImports := base.join templates.animatedImports } }

/-- The names that generated code gets from the settings. -/
def names (config : Config) : OutputNames :=
  { package := config.output.package
    aggregate := config.output.aggregateName
    sealedDestination := config.output.sealedDestinationName
    graphType := config.naming.graphType
    graphsObject := config.naming.graphsObject }

end Config

end Navigation
