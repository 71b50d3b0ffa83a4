import Navigation.Proofs.Config
import Navigation.Proofs.OutputDirectory
import Navigation.Proofs.Project.Stages

/-! What a run leaves: the files as they were, or both artifacts in files of their own. -/

namespace Navigation.Project

open FileTree (Spared Wrote)
open Outcome (error? error?_eq_some_iff isSome_toOption_iff bind_eq_ok_iff
  map_eq_ok_iff mapError_eq_ok_iff)

section

variable {files after : FileTree} {environment : Environment} {directory : Path} {config : Config}
  {generated : Generated}

/-! ### What was made -/

/-- The settings found in a directory are valid. -/
theorem valid_of_discover (found : Config.discover files directory = .ok config) :
    config.Valid := by
  rw [Config.discover] at found
  -- Whether read from a file or taken as defaults, seeing them from a directory keeps them valid.
  by_cases present : files.isFile (Config.fileIn directory) = true
  · rw [if_pos present, Config.load] at found
    cases read : files.read (Config.fileIn directory) with
    | error cause => simp [read] at found
    | ok source =>
      simp only [read] at found
      obtain ⟨written, parsed, rfl⟩ := map_eq_ok_iff.1 found
      exact (Config.valid_of_parse parsed).resolved _
  · rw [if_neg present] at found
    cases found
    exact Config.valid_default.resolved _

/-- The settings of a run are valid. -/
theorem valid_of_settings (settled : settings files environment directory = .ok config) :
    config.Valid := by
  -- What was found is valid, and the environment only moves switches.
  obtain ⟨found, discovered, settled⟩ := bind_eq_ok_iff.1 settled
  have valid := (valid_of_discover discovered).overrideFrom environment
  obtain ⟨_, -, same⟩ := bind_eq_ok_iff.1 settled
  cases same
  exact valid

/-- Artifacts have the names that the settings give, and the sealed destination is its template. -/
theorem artifacts_of_made (given : made files config = .ok generated) :
    generated.aggregate.name = config.output.aggregateName ∧
      generated.sealedDestination.name = config.output.sealedDestinationName ∧
        files.read config.templates.sealedDestination =
          .ok generated.sealedDestination.contents := by
  obtain ⟨⟨destinations, templates⟩, loaded, given⟩ := bind_eq_ok_iff.1 given
  obtain ⟨-, read⟩ := load_eq_ok_iff.1 loaded
  rw [loadTemplates_eq_bind] at read
  obtain ⟨sources, texts, parsed⟩ := bind_eq_ok_iff.1 read
  obtain ⟨-, sealedDestination, -⟩ := reads_of_loadSources texts
  rw [mapError_eq_ok_iff] at given parsed
  obtain ⟨tree, -, rfl⟩ := map_eq_ok_iff.1 given
  -- The template of the sealed destination is its text, and the artifact is the template.
  obtain ⟨-, -, -, -, same, -⟩ := TemplateSet.parse_eq_ok_iff.1 parsed
  exact ⟨rfl, rfl, same ▸ sealedDestination⟩

/-! ### What was delivered -/

/-- What was made is delivered by writing the aggregate first, and then the sealed destination. -/
theorem delivered_eq_ok {sink : Sink FileTree IoError} {outcome : Except Failure Generated}
    (delivery : delivered sink files outcome = (.ok generated, after)) :
    outcome = .ok generated ∧
      ∃ between, sink generated.aggregate files = (.ok (), between) ∧
        sink generated.sealedDestination between = (.ok (), after) := by
  cases outcome with
  | error failure => exact absurd (congrArg Prod.fst delivery) nofun
  | ok made =>
    -- Either write could fail, and the run would then fail with it.
    simp only [delivered, Generated.artifacts, Sink.deliver] at delivery
    cases first : sink made.aggregate files with
    | mk result between =>
      cases result with
      | error cause => simp [first] at delivery
      | ok done =>
        cases second : sink made.sealedDestination between with
        | mk result last =>
          cases result with
          | error cause => simp [first, second] at delivery
          | ok done =>
            simp only [first, second, Prod.mk.injEq, Except.ok.injEq] at delivery
            obtain ⟨rfl, rfl⟩ := delivery
            exact ⟨rfl, between, first, second⟩

/-- A run leaves the files alone unless everything it needs was made. -/
theorem delivered_of_error {sink : Sink FileTree IoError} {outcome : Except Failure Generated}
    {failure : Failure} (failed : error? outcome = some failure) :
    delivered sink files outcome = (.error failure, files) := by
  -- Nothing is handed to the sink.
  rw [error?_eq_some_iff.1 failed]
  rfl

/--
What a successful run leaves: each artifact in a file of its own.

The text of the sealed destination is the one its template had before the run.
-/
structure Delivered (files : FileTree) (config : Config) (generated : Generated)
    (after : FileTree) : Prop where
  made : made files config = .ok generated
  aggregate : after.read ((outputOf config).pathOf generated.aggregate) =
    .ok generated.aggregate.contents
  sealedDestination : ∃ text, files.read config.templates.sealedDestination = .ok text ∧
    after.read ((outputOf config).pathOf generated.sealedDestination) = .ok text
  /-- All other places hold what they held, or a directory where nothing was. -/
  others : ∃ first second,
    after.locate ((outputOf config).pathOf generated.aggregate) = .ok (.named first) ∧
      after.locate ((outputOf config).pathOf generated.sealedDestination) = .ok (.named second) ∧
        ∀ other, other ≠ first → other ≠ second → Spared files after other

/-- Valid settings put the two artifacts into different files, so that both are there at the end. -/
theorem delivered_of_sinks (valid : config.Valid) (given : made files config = .ok generated)
    {between : FileTree}
    (first : (outputOf config).sink generated.aggregate files = (.ok (), between))
    (second : (outputOf config).sink generated.sealedDestination between = (.ok (), after)) :
    Delivered files config generated after := by
  obtain ⟨aggregateName, sealedName, sealedText⟩ := artifacts_of_made given
  obtain ⟨place, wrote⟩ := OutputDirectory.wrote_of_sink first
  obtain ⟨place', wrote'⟩ := OutputDirectory.wrote_of_sink second
  -- The names of the artifacts differ, so one file does not replace the other.
  have apart : place ≠ place' := by
    refine OutputDirectory.ne_of_name_ne ?_ ?_ wrote.found wrote'.found ?_
    · rw [aggregateName]
      exact Config.isName_of_isIdentifier valid.aggregateName valid.fileExtension
    · rw [sealedName]
      exact Config.isName_of_isIdentifier valid.sealedDestinationName valid.fileExtension
    · -- A valid configuration has two different names.
      rw [aggregateName, sealedName]
      exact valid.names_ne
  exact
    { made := given
      aggregate := wrote.read_after wrote' apart
      sealedDestination := ⟨_, sealedText, wrote'.read⟩
      others := ⟨place, place', wrote'.keeps.locate wrote.found, wrote'.found,
        fun other notFirst notSecond =>
          (wrote.others other notFirst).trans (wrote'.others other notSecond)⟩ }

/-- A run that fails before the writes leaves the files as they were. -/
theorem files_of_preparing
    (failed : Stage.preparing.findSome? (fault? files environment directory) ≠ none) :
    (generateFrom files environment directory).outcome.2 = files := by
  -- Without settings nothing is made, and with them it cannot be made.
  cases outcome : settings files environment directory with
  | error error => rw [generateFrom_of_error outcome]
  | ok config =>
    rw [findSome?_fault?_preparing outcome] at failed
    obtain ⟨failure, failed⟩ := Option.ne_none_iff_exists'.1 failed
    rw [generateFrom_eq_delivered outcome, delivered_of_error failed]

/-- A run that succeeds has delivered what it made. -/
theorem delivered_of_generateFrom
    (succeeded : (generateFrom files environment directory).outcome = (.ok generated, after)) :
    ∃ config, settings files environment directory = .ok config ∧
      Delivered files config generated after := by
  -- Such a run has settings, and both of its writes have succeeded.
  cases outcome : settings files environment directory with
  | error error =>
    rw [generateFrom_of_error outcome] at succeeded
    exact absurd (congrArg Prod.fst succeeded) nofun
  | ok config =>
    rw [generateFrom_eq_delivered outcome] at succeeded
    obtain ⟨given, between, first, second⟩ := delivered_eq_ok succeeded
    exact ⟨config, rfl, delivered_of_sinks (valid_of_settings outcome) given first second⟩

/--
A run fails as its first stage that does, as a step of a build and on its own alike.

It leaves the files as they were unless all stages before the writes have passed.
-/
theorem outcome_of_stages (files : FileTree) (environment : Environment) (directory : Path) :
    let run := generateFrom files environment directory
    (buildScript files environment directory).outcome = run.outcome ∧
      error? run.result = Stage.all.findSome? (fault? files environment directory) ∧
      (Stage.preparing.findSome? (fault? files environment directory) ≠ none →
        run.files = files) ∧
      ∀ generated, run.result = .ok generated →
        ∃ config, settings files environment directory = .ok config ∧
          Delivered files config generated run.files := by
  refine ⟨buildScript_eq_generateFrom files environment directory,
    error?_generateFrom files environment directory, files_of_preparing, ?delivered⟩
  case delivered =>
    -- The run has succeeded, and it has changed the files to what they are now.
    intro generated succeeded
    exact delivered_of_generateFrom (Prod.ext succeeded rfl)

/-- A manifest that is none is reported before the missing templates; a whole project succeeds. -/
theorem outcome_of_stages_small :
    let broken : FileTree := ⟨[(["destinations.json"], .file "[".toUTF8)], []⟩
    let environment : Environment := fun _ => none
    (fault? broken environment ⟨""⟩ .readAggregate ≠ none ∧
      (generateFrom broken environment ⟨""⟩).outcome =
        (.error (.badManifest ⟨"destinations.json"⟩), broken)) ∧
      ∃ generated config, (generateFrom smallProject environment ⟨""⟩).result = .ok generated ∧
        Delivered smallProject config generated
          (generateFrom smallProject environment ⟨""⟩).files := by
  intro broken environment
  -- The broken project fails with its manifest, though its templates are missing as well.
  constructor
  · have first : Stage.preparing.findSome? (fault? broken environment ⟨""⟩) =
        some (.badManifest ⟨"destinations.json"⟩) := by decide +kernel
    have whole : Stage.all.findSome? (fault? broken environment ⟨""⟩) =
        some (.badManifest ⟨"destinations.json"⟩) := by decide +kernel
    obtain ⟨-, failed, untouched, -⟩ := outcome_of_stages broken environment ⟨""⟩
    refine ⟨by decide +kernel, Prod.ext ?_ (untouched (by rw [first]; nofun))⟩
    exact error?_eq_some_iff.1 (failed.trans whole)
  · have succeeds : (generateFrom smallProject environment ⟨""⟩).result.toOption.isSome := by
      decide +kernel
    obtain ⟨-, -, -, delivers⟩ := outcome_of_stages smallProject environment ⟨""⟩
    obtain ⟨generated, result⟩ := isSome_toOption_iff.1 succeeds
    obtain ⟨config, -, delivery⟩ := delivers generated result
    exact ⟨generated, config, result, delivery⟩

end

end Navigation.Project
