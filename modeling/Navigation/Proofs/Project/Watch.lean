import Mathlib.Data.List.Basic
import Navigation.Proofs.Project.Stages

/-! A run of a build depends on nothing but what it asks the build to watch. -/

namespace Navigation.Project

open Outcome (error?_error)

/-! ### What is watched -/

/-- The line that watches a file shows which file it is. -/
theorem watchFile_injective : Function.Injective watchFile := by
  -- All directives start with the same words.
  rintro ⟨text⟩ ⟨text'⟩ same
  exact congrArg Path.mk ((String.append_right_inj _).1 same)

/-- No line watches a file and a variable at once. -/
theorem watchFile_ne_watchVariable (path : Path) (name : String) :
    watchFile path ≠ watchVariable name := by
  intro same
  have texts : "cargo:rerun-if-changed=".toList ++ path.text.toList =
      "cargo:rerun-if-env-changed=".toList ++ name.toList := by
    rw [← String.toList_append, ← String.toList_append]
    exact congrArg String.toList same
  -- The words in front differ before either of them ends.
  have fronts := congrArg (List.take 16) texts
  rw [List.take_append_of_le_length (by decide), List.take_append_of_le_length (by decide)]
    at fronts
  exact absurd fronts (by decide)

/-- The files whose lines are printed are that of the settings and those that are read. -/
theorem watchFile_mem_directives_iff {path directory : Path} {config : Config} :
    watchFile path ∈ directives directory config ↔
      path = Config.fileIn directory ∨ path ∈ watched config := by
  -- The directives about variables start with other words.
  rw [directives, List.mem_cons, List.mem_cons, List.mem_cons, watchFile_injective.eq_iff,
    List.mem_map_of_injective watchFile_injective]
  simp only [watchFile_ne_watchVariable, false_or]

/-- A step of a build prints what it watches once it has its settings, whatever happens then. -/
theorem printed_of_settings {files : FileTree} {environment : Environment} {directory : Path}
    {config : Config} (settled : settings files environment directory = .ok config) :
    (buildScript files environment directory).printed = directives directory config := by
  -- Directives are printed as soon as there are settings.
  unfold buildScript
  simp only [settled]

/-! ### What a run depends on -/

section

variable {files files' : FileTree} {environment environment' : Environment} {directory : Path}
  {config : Config}

/-- Settings depend on one file and on two variables. -/
theorem settings_congr
    (present : files.isFile (Config.fileIn directory) = files'.isFile (Config.fileIn directory))
    (contents : files.read (Config.fileIn directory) = files'.read (Config.fileIn directory))
    (animation : environment Config.animationVariable = environment' Config.animationVariable)
    (material : environment Config.materialVariable = environment' Config.materialVariable) :
    settings files environment directory = settings files' environment' directory := by
  -- The search looks at the file only, and each override at its own variable.
  have discovered : Config.discover files directory = Config.discover files' directory := by
    simp only [Config.discover, Config.load, present, contents]
  have overridden (config : Config) :
      config.overrideFrom environment = config.overrideFrom environment' := by
    simp only [Config.overrideFrom, Config.overridden, animation, material]
  simp only [settings, discovered, overridden]

/-- What is made depends on the texts of the files that are watched. -/
theorem made_congr (reads : ∀ path ∈ watched config, files.read path = files'.read path) :
    made files config = made files' config := by
  -- Files are read through the one function that gives their text.
  have texts : ∀ path ∈ watched config, readText files path = readText files' path :=
    fun path member => by rw [readText, readText, reads path member]
  simp only [watched, List.forall_mem_cons] at texts
  obtain ⟨manifest, aggregate, sealedDestination, plainHost, animatedHost, imports,
    animatedImports, -⟩ := texts
  simp only [made, load, loadManifest, loadTemplates, loadSources, manifest, aggregate,
    sealedDestination, plainHost, animatedHost, imports, animatedImports]

/-- Nothing is written while things are made, so no write can fail. -/
theorem made_ne_output (files : FileTree) (config : Config) (name : String) (cause : IoError) :
    made files config ≠ .error (.output name cause) := by
  intro failed
  have first := error?_made files config
  rw [failed, error?_error] at first
  obtain ⟨stage, before, fails⟩ := List.exists_of_findSome?_eq_some first.symm
  -- Each of the stages before the writes has a failure of its own.
  cases stage <;>
    first
      | exact absurd before (by decide)
      | simp [workFault?, readFault?, manifestFault?, templateFault?, placeholderFault?,
          assemblyFault?, Option.bind_eq_some_iff] at fails

/--
What a run leaves is settled by what it watches, but for what the file system makes of the writes.

The lines that ask for another run are printed in full, whatever comes of the run.
-/
theorem outcome_of_watched (settled : settings files environment directory = .ok config)
    (present : files.isFile (Config.fileIn directory) = files'.isFile (Config.fileIn directory))
    (animation : environment Config.animationVariable = environment' Config.animationVariable)
    (material : environment Config.materialVariable = environment' Config.materialVariable)
    (reads : ∀ path, watchFile path ∈ (buildScript files environment directory).printed →
      files.read path = files'.read path) :
    let run := buildScript files environment directory
    let run' := buildScript files' environment' directory
    run.printed = directives directory config ∧ run'.printed = run.printed ∧
      ∃ prepared, (∀ name cause, prepared ≠ .error (.output name cause)) ∧
        run.outcome = delivered (outputOf config).sink files prepared ∧
        run'.outcome = delivered (outputOf config).sink files' prepared := by
  -- What is printed names every file whose text matters.
  have printed := printed_of_settings settled
  simp only [printed, watchFile_mem_directives_iff] at reads
  have settled' : settings files' environment' directory = .ok config :=
    (settings_congr present (reads _ (.inl rfl)) animation material).symm.trans settled
  have same : made files config = made files' config :=
    made_congr fun path member => reads path (.inr member)
  refine ⟨printed, (printed_of_settings settled').trans printed.symm, made files config,
    made_ne_output files config, ?_, ?_⟩
  · rw [buildScript_eq_generateFrom, generateFrom_eq_delivered settled]
  · rw [buildScript_eq_generateFrom, generateFrom_eq_delivered settled', same]

/-- A file in the way of the generated ones is not watched, and makes no difference to the rest. -/
theorem outcome_of_watched_blocked :
    let blocked : FileTree := smallProject.set ["generated"] (.file "".toUTF8)
    let environment : Environment := fun _ => none
    let run := buildScript smallProject environment ⟨""⟩
    let run' := buildScript blocked environment ⟨""⟩
    run.printed = directives ⟨""⟩ {} ∧ run'.printed = run.printed ∧
      ∃ prepared, (∀ name cause, prepared ≠ .error (.output name cause)) ∧
        run.outcome = delivered (outputOf {}).sink smallProject prepared ∧
        run'.outcome = delivered (outputOf {}).sink blocked prepared := by
  -- The directory for the output is not among the paths that are watched.
  intro blocked environment
  have settled : settings smallProject environment ⟨""⟩ = .ok {} := by decide +kernel
  refine outcome_of_watched settled (by decide +kernel) rfl rfl fun path listed => ?_
  rw [printed_of_settings settled, watchFile_mem_directives_iff, ← List.mem_cons] at listed
  revert path
  decide +kernel

end

end Navigation.Project
