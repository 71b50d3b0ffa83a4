import Navigation.Project
import Navigation.Proofs.Outcome

/-! A run reads everything first, then makes everything, and writes at the very end. -/

namespace Navigation.Project

open Outcome (bind_eq_ok_iff mapError_error mapError_ok)

/-! ### What was read -/

section

variable {files : FileTree} {path : Path}

/-- A text is given exactly if it was read. -/
theorem readText_eq_ok_iff {text : String} :
    readText files path = .ok text ↔ files.read path = .ok text := by
  -- What cannot be read is another error, but is an error.
  rw [readText]
  cases files.read path <;> simp

/-- The destinations are those that the manifest lists. -/
theorem loadManifest_eq_ok_iff {destinations : List Destination} :
    loadManifest files path = .ok destinations ↔
      ∃ source, files.read path = .ok source ∧ Manifest.parse? source = some destinations := by
  rw [loadManifest, bind_eq_ok_iff]
  -- The text is read first, and then decoded or refused.
  refine exists_congr fun source => and_congr readText_eq_ok_iff ?_
  cases Manifest.parse? source <;> simp

/-- The texts of the templates are those of their files. -/
theorem reads_of_loadSources {paths : TemplatePaths} {sources : TemplateSources}
    (loaded : loadSources files paths = .ok sources) :
    files.read paths.aggregate = .ok sources.aggregate ∧
      files.read paths.sealedDestination = .ok sources.sealedDestination ∧
      files.read paths.plainHost = .ok sources.plainHost ∧
      files.read paths.animatedHost = .ok sources.animatedHost := by
  -- Each file is read after those before it; the last two hold lists of imports.
  obtain ⟨aggregate, first, loaded⟩ := bind_eq_ok_iff.1 loaded
  obtain ⟨sealedDestination, second, loaded⟩ := bind_eq_ok_iff.1 loaded
  obtain ⟨plainHost, third, loaded⟩ := bind_eq_ok_iff.1 loaded
  obtain ⟨animatedHost, fourth, loaded⟩ := bind_eq_ok_iff.1 loaded
  obtain ⟨imports, -, loaded⟩ := bind_eq_ok_iff.1 loaded
  obtain ⟨animatedImports, -, loaded⟩ := bind_eq_ok_iff.1 loaded
  cases loaded
  exact ⟨readText_eq_ok_iff.1 first, readText_eq_ok_iff.1 second, readText_eq_ok_iff.1 third,
    readText_eq_ok_iff.1 fourth⟩

/-- The templates are those that the sources hold. -/
theorem loadTemplates_eq_bind (files : FileTree) (paths : TemplatePaths) :
    loadTemplates files paths =
      loadSources files paths >>= fun sources =>
        (TemplateSet.parse sources).mapError .template := by
  rw [loadTemplates]
  -- An error is only put into the words of a run.
  refine congrArg (loadSources files paths >>= ·) (funext fun sources => ?_)
  cases TemplateSet.parse sources <;> rfl

/-- Everything was read exactly if the manifest and the templates were. -/
theorem load_eq_ok_iff {config : Config} {destinations : List Destination}
    {templates : TemplateSet} :
    load files config = .ok (destinations, templates) ↔
      loadManifest files config.input.manifest = .ok destinations ∧
        loadTemplates files config.templates = .ok templates := by
  -- The manifest is read first, and the templates after it.
  constructor
  · intro loaded
    obtain ⟨listed, manifest, loaded⟩ := bind_eq_ok_iff.1 loaded
    obtain ⟨parsed, texts, loaded⟩ := bind_eq_ok_iff.1 loaded
    cases loaded
    exact ⟨manifest, texts⟩
  · rintro ⟨manifest, texts⟩
    exact bind_eq_ok_iff.2 ⟨_, manifest, bind_eq_ok_iff.2 ⟨_, texts, rfl⟩⟩

end

/-! ### What a run makes and delivers -/

/-- What is left of a run: its result, and the files afterwards. -/
def Run.outcome (run : Run) : Except Failure Generated × FileTree :=
  (run.result, run.files)

/-- The directory that artifacts are written below. -/
def outputOf (config : Config) : OutputDirectory :=
  ⟨config.output.directory, config.output.fileExtension⟩

/-- Everything a run makes before it writes, or why it cannot. -/
def made (files : FileTree) (config : Config) : Except Failure Generated := do
  let (destinations, templates) ← load files config
  (Navigation.generate destinations config.capabilities templates config.names).mapError .setup

/-- What comes of handing over what was made: the result, and the files afterwards. -/
def delivered (sink : Sink FileTree IoError) (files : FileTree) :
    Except Failure Generated → Except Failure Generated × FileTree
  | .error failure => (.error failure, files)
  | .ok generated =>
    let delivery := sink.deliver generated.artifacts files
    match delivery.failure? with
    | some (name, cause) => (.error (.output name cause), delivery.place)
    | none => (.ok generated, delivery.place)

/-- What a run makes depends on what it reads and on its settings. -/
theorem made_of_load {files : FileTree} {config : Config} {destinations : List Destination}
    {templates : TemplateSet} (loaded : load files config = .ok (destinations, templates)) :
    made files config =
      (Navigation.generate destinations config.capabilities templates config.names).mapError
        .setup := by
  -- Once everything is loaded, only the generation is left.
  simp only [made, loaded, Bind.bind, Except.bind]

/-- A run delivers what it has made. -/
theorem generate_eq_delivered (files : FileTree) (config : Config) :
    (generate files config).outcome =
      delivered (outputOf config).sink files (made files config) := by
  rw [Run.outcome]
  -- Only a run that has read everything goes on to make something.
  cases outcome : load files config with
  | error failure =>
    simp only [generate, made, outcome, Bind.bind, Except.bind, Run.failed, delivered]
  | ok loaded =>
    obtain ⟨destinations, templates⟩ := loaded
    rw [made_of_load outcome]
    cases text : Navigation.generate destinations config.capabilities templates config.names with
    | error faults =>
      simp only [generate, outcome, process, text, mapError_error, delivered]
    | ok generated =>
      simp only [generate, outcome, process, text, mapError_ok, delivered, outputOf]
      -- The result is what was made, unless one of the writes has failed.
      generalize Sink.deliver _ generated.artifacts files = delivery
      cases delivery.failure? with
      | none => simp only
      | some failure => simp only

section

variable {files : FileTree} {environment : Environment} {directory : Path} {config : Config}

/-- With settings, a run in a directory delivers what it has made. -/
theorem generateFrom_eq_delivered (settled : settings files environment directory = .ok config) :
    (generateFrom files environment directory).outcome =
      delivered (outputOf config).sink files (made files config) := by
  -- With settings, the run is generation into their output directory.
  rw [← generate_eq_delivered]
  unfold generateFrom
  simp only [settled, Run.outcome]

/-- Without settings, a run in a directory ends before it has done anything. -/
theorem generateFrom_of_error {error : ConfigError}
    (unsettled : settings files environment directory = .error error) :
    (generateFrom files environment directory).outcome = (.error (.config error), files) := by
  -- Without settings there is no directory that could be written to.
  unfold generateFrom
  simp only [unsettled, Run.failed, Run.outcome]

/-- A step of a build comes to the same as a run in the directory. -/
theorem buildScript_eq_generateFrom (files : FileTree) (environment : Environment)
    (directory : Path) :
    (buildScript files environment directory).outcome =
      (generateFrom files environment directory).outcome := by
  -- They differ in what they print, and that is neither a result nor a file.
  unfold buildScript generateFrom
  cases settings files environment directory with
  | error error => simp only
  | ok config => simp only [Run.outcome]

end

/-- A small project: one destination, and templates with nothing but what is required of them. -/
def smallProject : FileTree where
  entries :=
    [(["destinations.json"], .file "[[\"Home\", \"home\", \"root\", true, [], []]]".toUTF8),
      (["templates"], .directory),
      (["templates", "aggregate.kt.tmpl"],
        .file "[NAV_GRAPHS_DECLARATION]\n[IMPORTS_BLOCK]".toUTF8),
      (["templates", "destination.kt.tmpl"], .file "sealed".toUTF8),
      (["templates", "inner_nav_host.kt.tmpl"], .file "".toUTF8),
      (["templates", "inner_animated_nav_host.kt.tmpl"], .file "".toUTF8),
      (["templates", "imports.txt"], .file "".toUTF8),
      (["templates", "animated_imports.txt"], .file "".toUTF8)]

end Navigation.Project
