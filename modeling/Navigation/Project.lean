import Navigation.Config.Document
import Navigation.Manifest
import Navigation.OutputDirectory

/-! Projects: from a directory with settings, templates and a manifest to its generated files. -/

namespace Navigation

/-- The version of the generator. -/
def version : String :=
  "0.4.0"

/-- The values of the variables in the environment. -/
abbrev Environment :=
  String → Option String

/-- Why a project's files were not generated. -/
inductive Failure where
  | config (error : ConfigError)
  | unreadable (path : Path) (cause : IoError)
  | badManifest (path : Path)
  | template (error : TemplateError)
  | setup (faults : ErrorTree)
  | output (name : String) (cause : IoError)
  deriving DecidableEq

/-- The sentence that reports an artifact which could not be written. -/
def outputMessage (name reason : String) : String :=
  "failed to write artifact '" ++ name ++ "': " ++ reason

/-- The sentence a failure is reported by.

It ends, for a manifest or settings that are malformed, in what the reader of such files says. -/
def Failure.message (failure : Failure) (wording : String := "") : String :=
  match failure with
  | .config error => error.message wording
  | .unreadable path cause => cause.readMessage path
  | .badManifest path => "invalid destination manifest " ++ path.text ++ ": " ++ wording
  | .template error => error.message
  | .setup faults => faults.report
  | .output name cause => outputMessage name cause.message

namespace Config

/-- The settings in a file, with paths seen from the directory that holds it. -/
def load (files : FileTree) (path : Path) : Except ConfigError Config :=
  match files.read path with
  | .error cause => .error (.unreadable path cause)
  | .ok source => (parse source).map (resolved (path.parent?.getD ⟨""⟩))

/-- The file that would hold the settings of the project in a directory. -/
def fileIn (directory : Path) : Path :=
  directory.join fileName

/-- The settings of the project in a directory; without a file for them, the defaults. -/
def discover (files : FileTree) (directory : Path) : Except ConfigError Config :=
  if files.isFile (fileIn directory) then load files (fileIn directory)
  else .ok (resolved directory {})

/-- What loading settings reports. -/
def loadEvents (files : FileTree) (path : Path) : List Event :=
  match load files path with
  | .ok _ => [.configLoaded path.text]
  | .error _ => []

/-- What the search for settings reports. -/
def discoverEvents (files : FileTree) (directory : Path) : List Event :=
  if files.isFile (fileIn directory) then loadEvents files (fileIn directory)
  else [.configAbsent directory.text]

end Config

namespace Project

/-- The text in a file of the project. -/
def readText (files : FileTree) (path : Path) : Except Failure String :=
  match files.read path with
  | .ok text => .ok text
  | .error cause => .error (.unreadable path cause)

/-- The destinations that a manifest lists. -/
def loadManifest (files : FileTree) (path : Path) : Except Failure (List Destination) := do
  let source ← readText files path
  match Manifest.parse? source with
  | some destinations => .ok destinations
  | none => .error (.badManifest path)

/-- The texts of the templates and import lists. -/
def loadSources (files : FileTree) (paths : TemplatePaths) : Except Failure TemplateSources := do
  let aggregate ← readText files paths.aggregate
  let sealedDestination ← readText files paths.sealedDestination
  let plainHost ← readText files paths.plainHost
  let animatedHost ← readText files paths.animatedHost
  let imports ← readText files paths.imports
  let animatedImports ← readText files paths.animatedImports
  return ⟨aggregate, sealedDestination, plainHost, animatedHost, ImportList.read imports,
    ImportList.read animatedImports⟩

/-- The templates, ready for use. -/
def loadTemplates (files : FileTree) (paths : TemplatePaths) : Except Failure TemplateSet := do
  let sources ← loadSources files paths
  match TemplateSet.parse sources with
  | .ok templates => .ok templates
  | .error error => .error (.template error)

/-- Everything that a run reads. -/
def load (files : FileTree) (config : Config) :
    Except Failure (List Destination × TemplateSet) := do
  let destinations ← loadManifest files config.input.manifest
  let templates ← loadTemplates files config.templates
  return (destinations, templates)

/-- The settings of the project in a directory, with switches overridden by the environment. -/
def settings (files : FileTree) (environment : Environment) (directory : Path) :
    Except ConfigError Config := do
  let config ← Config.discover files directory
  let (config, checked) := config.overrideFrom environment
  checked
  return config

/-- One run: its result, the files afterwards, and what it reports and prints. -/
structure Run where
  result : Except Failure Generated
  files : FileTree
  events : List Event
  printed : List String

/-- A run that ends before it can do anything. -/
def Run.failed (files : FileTree) (events : List Event) (failure : Failure) : Run :=
  ⟨.error failure, files, events, []⟩

/-- Generates the files of a project with given settings. -/
def generate (files : FileTree) (config : Config) : Run :=
  match load files config with
  | .error failure => .failed files [] failure
  | .ok (destinations, templates) =>
    let output : OutputDirectory := ⟨config.output.directory, config.output.fileExtension⟩
    let processed :=
      process output.sink destinations config.capabilities templates config.names files
    let events :=
      generationEvents destinations config.capabilities templates ++ processed.events output.report
    match processed.result with
    | .ok generated =>
      ⟨.ok generated, processed.place, events ++ [.outputFinished output.root.text], []⟩
    | .error (.setup faults) => ⟨.error (.setup faults), processed.place, events, []⟩
    | .error (.output name cause) => ⟨.error (.output name cause), processed.place, events, []⟩

/-- Generates the files of the project in a directory. -/
def generateFrom (files : FileTree) (environment : Environment) (directory : Path) : Run :=
  let found := Config.discoverEvents files directory
  match settings files environment directory with
  | .error error => .failed files found (.config error)
  | .ok config =>
    let run := generate files config
    { run with events := found ++ run.events }

/-- The files that a run with given settings reads. -/
def watched (config : Config) : List Path :=
  let templates := config.templates
  [config.input.manifest, templates.aggregate, templates.sealedDestination, templates.plainHost,
    templates.animatedHost, templates.imports, templates.animatedImports]

/-- The line that asks for another run when a file changes. -/
def watchFile (path : Path) : String :=
  "cargo:rerun-if-changed=" ++ path.text

/-- The line that asks for another run when a variable changes. -/
def watchVariable (name : String) : String :=
  "cargo:rerun-if-env-changed=" ++ name

/-- The lines that tell a build when to run the generator again. -/
def directives (directory : Path) (config : Config) : List String :=
  watchFile (Config.fileIn directory) ::
    watchVariable Config.animationVariable ::
    watchVariable Config.materialVariable :: (watched config).map watchFile

/-- Generates the files of the project in a directory, as a step of a build.

The directives are printed as soon as the settings are known, whatever happens then. -/
def buildScript (files : FileTree) (environment : Environment) (directory : Path) : Run :=
  let found := Config.discoverEvents files directory
  match settings files environment directory with
  | .error error => .failed files found (.config error)
  | .ok config =>
    let run := generate files config
    { run with events := found ++ run.events, printed := directives directory config }

end Project

end Navigation
