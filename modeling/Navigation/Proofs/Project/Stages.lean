import Navigation.Proofs.Config
import Navigation.Proofs.Project.Run
import Navigation.Proofs.TemplateSet

/-! The stages of a run, what each fails with, and that a run fails as the first one that does. -/

namespace Navigation.Project

open Outcome (error? error?_ok error?_bind_eq_or error?_map error?_mapError)

/-- A step of a run that may fail. -/
inductive Stage where
  | readSettings
  | parseSettings
  | validateSettings
  | overrideAnimation
  | overrideMaterial
  | readManifest
  | decodeManifest
  | readAggregate
  | readSealedDestination
  | readPlainHost
  | readAnimatedHost
  | readImports
  | readAnimatedImports
  | parseAggregate
  | requirePlaceholders
  | parsePlainHost
  | parseAnimatedHost
  | assemble
  | writeAggregate
  | writeSealedDestination
  deriving DecidableEq

namespace Stage

/-- The stages that settle what a run works with. -/
def settling : List Stage :=
  [.readSettings, .parseSettings, .validateSettings, .overrideAnimation, .overrideMaterial]

/-- The stages that get the destinations and the texts of templates and import lists. -/
def reading : List Stage :=
  [.readManifest, .decodeManifest, .readAggregate, .readSealedDestination, .readPlainHost,
    .readAnimatedHost, .readImports, .readAnimatedImports]

/-- The stages that make artifacts of what was read. -/
def making : List Stage :=
  [.parseAggregate, .requirePlaceholders, .parsePlainHost, .parseAnimatedHost, .assemble]

/-- The stages that write the artifacts. -/
def writing : List Stage :=
  [.writeAggregate, .writeSealedDestination]

/-- The stages that have to pass before anything is written, in their order. -/
def preparing : List Stage :=
  settling ++ (reading ++ making)

/-- All stages of a run, in their order. -/
def all : List Stage :=
  preparing ++ writing

end Stage

/-! ### What each stage fails with, once those before it have passed -/

section

variable (files : FileTree)

/-- The text of the settings, if there is a file for them that can be read. -/
def settingsText? (directory : Path) : Option String :=
  if files.isFile (Config.fileIn directory) then (files.read (Config.fileIn directory)).toOption
  else none

/-- Overriding a switch fails if its variable has a value that is no position of a switch. -/
def switchFault? (environment : Environment) (name : String) : Option ConfigError :=
  (environment name).bind fun value =>
    if (Config.switch? value).isNone then some (.invalidSwitch name value) else none

/-- What a stage fails with that settles what a run works with. -/
def settlingFault? (environment : Environment) (directory : Path) : Stage → Option ConfigError
  | .readSettings =>
    if files.isFile (Config.fileIn directory) then
      (error? (files.read (Config.fileIn directory))).map (.unreadable (Config.fileIn directory))
    else none
  | .parseSettings =>
    (settingsText? files directory).bind fun source =>
      if (Config.written? source).isNone then some .malformed else none
  | .validateSettings =>
    ((settingsText? files directory).bind Config.written?).bind fun config =>
      error? config.validate
  | .overrideAnimation => switchFault? environment Config.animationVariable
  | .overrideMaterial => switchFault? environment Config.materialVariable
  | _ => none

/-- Reading a file fails if the file system refuses. -/
def readFault? (path : Path) : Option Failure :=
  (error? (files.read path)).map (.unreadable path)

/-- Decoding a manifest fails if its text is none. -/
def manifestFault? (path : Path) : Option Failure :=
  (files.read path).toOption.bind fun source =>
    if (Manifest.parse? source).isNone then some (.badManifest path) else none

/-- Parsing a template fails if its text has faults. -/
def templateFault? (path : Path) : Option Failure :=
  (files.read path).toOption.bind fun source => (error? (Template.parse source)).map .template

/-- An aggregate's template fails if it lacks a placeholder that is required. -/
def placeholderFault? (path : Path) : Option Failure :=
  (files.read path).toOption.bind fun source =>
    (Template.parse source).toOption.bind fun template =>
      (error? (template.require TemplateSet.required)).map .template

/-- Assembling fails if the destinations that a manifest lists have faults. -/
def assemblyFault? (path : Path) : Option Failure :=
  (files.read path).toOption.bind fun source =>
    (Manifest.parse? source).bind fun destinations =>
      (error? (assemble destinations)).map .setup

/-- Writing an artifact fails if the sink refuses. -/
def writeFault? (sink : Sink FileTree IoError) (artifact : Artifact) : Option Failure :=
  (error? (sink artifact files).1).map (.output artifact.name)

/-- What a stage fails with that works with given settings. -/
def workFault? (config : Config) : Stage → Option Failure
  | .readManifest => readFault? files config.input.manifest
  | .decodeManifest => manifestFault? files config.input.manifest
  | .readAggregate => readFault? files config.templates.aggregate
  | .readSealedDestination => readFault? files config.templates.sealedDestination
  | .readPlainHost => readFault? files config.templates.plainHost
  | .readAnimatedHost => readFault? files config.templates.animatedHost
  | .readImports => readFault? files config.templates.imports
  | .readAnimatedImports => readFault? files config.templates.animatedImports
  | .parseAggregate => templateFault? files config.templates.aggregate
  | .requirePlaceholders => placeholderFault? files config.templates.aggregate
  | .parsePlainHost => templateFault? files config.templates.plainHost
  | .parseAnimatedHost => templateFault? files config.templates.animatedHost
  | .assemble => assemblyFault? files config.input.manifest
  | .writeAggregate =>
    (made files config).toOption.bind fun generated =>
      writeFault? files (outputOf config).sink generated.aggregate
  | .writeSealedDestination =>
    (made files config).toOption.bind fun generated =>
      writeFault? ((outputOf config).sink generated.aggregate files).2 (outputOf config).sink
        generated.sealedDestination
  | _ => none

/-- What a stage of a run in a directory fails with. -/
def fault? (environment : Environment) (directory : Path) (stage : Stage) : Option Failure :=
  ((settlingFault? files environment directory stage).map .config).or
    ((settings files environment directory).toOption.bind fun config =>
      workFault? files config stage)

end

/-! ### The first stage that fails -/

/-- The first failure of some stages is that of the first one, or of those behind it. -/
theorem findSome?_cons_or {α β : Type} (f : α → Option β) (a : α) (rest : List α) :
    (a :: rest).findSome? f = (f a).or (rest.findSome? f) := by
  -- The others are asked only if the first gives nothing.
  rw [List.findSome?_cons]
  cases f a <;> rfl

/-- The first failure of some stages depends on what each of them fails with. -/
theorem findSome?_congr {α β : Type} {f g : α → Option β} {values : List α}
    (same : ∀ value ∈ values, f value = g value) : values.findSome? f = values.findSome? g := by
  -- The first value decides, or leaves it to the rest for both alike.
  induction values with
  | nil => rfl
  | cons value rest ih =>
    rw [List.forall_mem_cons] at same
    rw [findSome?_cons_or, findSome?_cons_or, same.1, ih same.2]

section

variable {files : FileTree} {environment : Environment} {directory : Path} {config : Config}

/-- Settings fail as the environment's first switch that is none. -/
theorem error?_overrideFrom (environment : Environment) (config : Config) :
    error? (config.overrideFrom environment).2 =
      (switchFault? environment Config.animationVariable).or
        (switchFault? environment Config.materialVariable) := by
  -- A variable that is not there overrides nothing, and cannot be wrong.
  have overridden (name : String) (current : Bool) :
      error? (Config.overridden environment name current) = switchFault? environment name := by
    rw [Config.overridden, switchFault?]
    cases environment name with
    | none => rfl
    | some value =>
      simp only [Option.bind_some]
      cases Config.switch? value <;> rfl
  rw [← overridden _ config.capabilities.animation, ← overridden _ config.capabilities.material,
    Config.overrideFrom]
  cases Config.overridden environment Config.animationVariable config.capabilities.animation with
  | error error => rfl
  | ok animation =>
    simp only
    cases Config.overridden environment Config.materialVariable config.capabilities.material <;> rfl

/-- Settings in a text fail when they are parsed, or when they are validated. -/
theorem error?_parse (source : String) :
    error? (Config.parse source) =
      (if (Config.written? source).isNone then some ConfigError.malformed else none).or
        ((Config.written? source).bind fun config => error? config.validate) := by
  rw [Config.parse_eq]
  -- A text without settings ends it, so that nothing is left to validate.
  cases Config.written? source with
  | none => rfl
  | some config =>
    simp only [error?_map, Option.isNone_some, Bool.false_eq_true, if_false, Option.none_or,
      Option.bind_some]

/-- Settings in a directory fail when their file is read, parsed, or validated. -/
theorem error?_discover (files : FileTree) (environment : Environment) (directory : Path) :
    error? (Config.discover files directory) =
      (settlingFault? files environment directory .readSettings).or
        ((settlingFault? files environment directory .parseSettings).or
          (settlingFault? files environment directory .validateSettings)) := by
  simp only [settlingFault?, settingsText?, Config.discover]
  -- Without a file the defaults are taken, and they are in order.
  by_cases present : files.isFile (Config.fileIn directory) = true
  · simp only [if_pos present, Config.load]
    cases files.read (Config.fileIn directory) with
    | error cause => rfl
    | ok source =>
      simp only [error?_map, error?_parse, Except.toOption, Option.bind_some, error?_ok,
        Option.map_none, Option.none_or]
  · simp only [if_neg present]
    rfl

/-- Settings fail as the first of the stages that settle them. -/
theorem error?_settings (files : FileTree) (environment : Environment) (directory : Path) :
    error? (settings files environment directory) =
      Stage.settling.findSome? (settlingFault? files environment directory) := by
  -- What the environment overrides does not depend on the settings it finds.
  have overridden : error? (settings files environment directory) =
      (error? (Config.discover files directory)).or
        ((switchFault? environment Config.animationVariable).or
          (switchFault? environment Config.materialVariable)) := by
    refine error?_bind_eq_or fun config _ => ?_
    rw [← error?_overrideFrom environment config]
    cases config.overrideFrom environment with
    | mk config checked => cases checked <;> rfl
  -- The stages are those of the search, and behind them the two switches.
  rw [overridden, error?_discover files environment]
  simp only [Stage.settling, findSome?_cons_or, List.findSome?_nil, Option.or_none,
    Option.or_assoc, settlingFault?]

/-- A text is read unless the file system refuses. -/
theorem error?_readText (files : FileTree) (path : Path) :
    error? (readText files path) = readFault? files path := by
  -- A text that cannot be read is a fault with its path.
  rw [readText, readFault?]
  cases files.read path <;> rfl

/-- A manifest fails when it is read, or when it is decoded. -/
theorem error?_loadManifest (files : FileTree) (path : Path) :
    error? (loadManifest files path) = (readFault? files path).or (manifestFault? files path) := by
  rw [← error?_readText, manifestFault?]
  -- What is decoded is the text that was read.
  refine error?_bind_eq_or fun source text => ?_
  rw [readText_eq_ok_iff.1 text, Except.toOption, Option.bind_some]
  cases Manifest.parse? source <;> rfl

/-- Sources fail as the first of their files that cannot be read. -/
theorem error?_loadSources (files : FileTree) (paths : TemplatePaths) :
    error? (loadSources files paths) =
      (readFault? files paths.aggregate).or
        ((readFault? files paths.sealedDestination).or
          ((readFault? files paths.plainHost).or
            ((readFault? files paths.animatedHost).or
              ((readFault? files paths.imports).or (readFault? files paths.animatedImports))))) := by
  simp only [← error?_readText]
  -- None of these steps looks at what was read before it.
  refine error?_bind_eq_or fun aggregate _ => ?_
  refine error?_bind_eq_or fun sealedDestination _ => ?_
  refine error?_bind_eq_or fun plainHost _ => ?_
  refine error?_bind_eq_or fun animatedHost _ => ?_
  refine error?_bind_eq_or fun imports _ => ?_
  refine (error?_bind_eq_or fun animatedImports _ => ?_).trans Option.or_none
  rfl

/-- Templates fail when a file is read, when a template is parsed, or when one is incomplete. -/
theorem error?_loadTemplates (files : FileTree) (paths : TemplatePaths) :
    error? (loadTemplates files paths) =
      (error? (loadSources files paths)).or
        ((templateFault? files paths.aggregate).or
          ((placeholderFault? files paths.aggregate).or
            ((templateFault? files paths.plainHost).or
              (templateFault? files paths.animatedHost)))) := by
  rw [loadTemplates_eq_bind]
  -- All files have been read by then, so that each text is the one of its file.
  refine error?_bind_eq_or fun sources loaded => ?_
  obtain ⟨aggregate, -, plainHost, animatedHost⟩ := reads_of_loadSources loaded
  rw [error?_mapError, TemplateSet.error?_parse]
  simp only [templateFault?, placeholderFault?, aggregate, plainHost, animatedHost,
    Except.toOption, Option.bind_some, Option.map_or, Option.map_bind]
  rfl

/-- A run cannot read what it needs if it cannot read its manifest, or its templates after that. -/
theorem error?_load (files : FileTree) (config : Config) :
    error? (load files config) =
      (error? (loadManifest files config.input.manifest)).or
        (error? (loadTemplates files config.templates)) := by
  -- The manifest comes first, and the templates are read only after it.
  refine error?_bind_eq_or fun destinations _ => ?_
  refine (error?_bind_eq_or fun templates _ => ?_).trans Option.or_none
  rfl

/-- What a run makes fails as the first of the stages that read and make it. -/
theorem error?_made (files : FileTree) (config : Config) :
    error? (made files config) =
      (Stage.reading ++ Stage.making).findSome? (workFault? files config) := by
  -- The destinations that are assembled at the end are those read at the beginning.
  have assembled : error? (made files config) =
      (error? (load files config)).or (assemblyFault? files config.input.manifest) := by
    refine error?_bind_eq_or fun loaded given => ?_
    obtain ⟨manifest, -⟩ := load_eq_ok_iff.1 given
    obtain ⟨source, read, parsed⟩ := loadManifest_eq_ok_iff.1 manifest
    simp only [assemblyFault?, read, parsed, Except.toOption, Option.bind_some]
    rw [error?_mapError, Navigation.generate, error?_map]
  -- What is left is the list of stages, in the order of these parts.
  rw [assembled, error?_load, error?_loadManifest, error?_loadTemplates, error?_loadSources]
  simp only [Stage.reading, Stage.making, List.cons_append, List.nil_append, findSome?_cons_or,
    List.findSome?_nil, Option.or_none, Option.or_assoc, workFault?]

/-- What was made fails to be delivered as the first artifact that the sink refuses. -/
theorem error?_delivered (sink : Sink FileTree IoError) (files : FileTree)
    (outcome : Except Failure Generated) :
    error? (delivered sink files outcome).1 =
      (error? outcome).or
        ((outcome.toOption.bind fun generated => writeFault? files sink generated.aggregate).or
          (outcome.toOption.bind fun generated =>
            writeFault? (sink generated.aggregate files).2 sink generated.sealedDestination)) := by
  cases outcome with
  | error failure => rfl
  | ok generated =>
    simp only [delivered, Generated.artifacts, Sink.deliver, writeFault?, Except.toOption,
      Option.bind_some, error?_ok, Option.none_or]
    -- The second artifact is handed over only once the first is written.
    generalize sink generated.aggregate files = first
    obtain ⟨result, between⟩ := first
    cases result with
    | error cause => rfl
    | ok done =>
      simp only
      generalize sink generated.sealedDestination between = second
      obtain ⟨result, after⟩ := second
      cases result <;> rfl

/-- With settings, the stages behind them fail as they do with the settings given. -/
theorem fault?_of_settled (settled : settings files environment directory = .ok config)
    {stage : Stage} (behind : stage ∉ Stage.settling) :
    fault? files environment directory stage = workFault? files config stage := by
  -- Such a stage settles nothing that could fail.
  have settles : settlingFault? files environment directory stage = none := by
    cases stage <;> first | rfl | exact absurd (by decide) behind
  rw [fault?, settles, settled]
  rfl

/-- The stages that settle what a run works with fail as its settings do. -/
theorem findSome?_fault?_settling (files : FileTree) (environment : Environment)
    (directory : Path) :
    Stage.settling.findSome? (fault? files environment directory) =
      (error? (settings files environment directory)).map .config := by
  rw [error?_settings, List.map_findSome?]
  refine findSome?_congr fun stage settles => ?_
  -- None of these stages works with settings that are there already.
  have works (config : Config) : workFault? files config stage = none := by
    cases stage <;> first | rfl | exact absurd settles (by decide)
  simp only [fault?, works, Option.bind_fun_none, Option.or_none, Function.comp_apply]

/-- What a run makes fails as the first of the stages before the writes. -/
theorem findSome?_fault?_preparing (settled : settings files environment directory = .ok config) :
    Stage.preparing.findSome? (fault? files environment directory) =
      error? (made files config) := by
  -- The settings are there, and the stages behind them do not settle anything.
  rw [error?_made, Stage.preparing, List.findSome?_append, findSome?_fault?_settling, settled]
  refine findSome?_congr fun stage works => fault?_of_settled settled ?_
  revert stage
  decide

/-- A run fails as its first stage that does. -/
theorem error?_generateFrom (files : FileTree) (environment : Environment) (directory : Path) :
    error? (generateFrom files environment directory).outcome.1 =
      Stage.all.findSome? (fault? files environment directory) := by
  cases outcome : settings files environment directory with
  | error error =>
    -- A stage that settles them has failed, and none comes before it.
    rw [Stage.all, Stage.preparing, List.findSome?_append, List.findSome?_append,
      findSome?_fault?_settling, generateFrom_of_error outcome, outcome]
    rfl
  | ok config =>
    -- All that was made is delivered, and only the two writes are left to fail.
    rw [generateFrom_eq_delivered outcome, error?_delivered, Stage.all,
      List.findSome?_append, findSome?_fault?_preparing outcome]
    have writes : Stage.writing.findSome? (fault? files environment directory) =
        Stage.writing.findSome? (workFault? files config) :=
      findSome?_congr fun stage writes => fault?_of_settled outcome (by revert stage; decide)
    rw [writes]
    simp only [Stage.writing, findSome?_cons_or, List.findSome?_nil, Option.or_none, workFault?]

end

end Navigation.Project
