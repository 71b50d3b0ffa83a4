import Mathlib.Data.List.Forall2
import Navigation.Config.Basic
import Navigation.Proofs.Path

/-! Settings seen from a directory: their paths are joined to it, and nothing else is changed. -/

namespace Navigation.Config

/-- The paths of settings. -/
def paths (config : Config) : List Path :=
  [config.output.directory, config.input.manifest, config.templates.aggregate,
    config.templates.sealedDestination, config.templates.plainHost,
    config.templates.animatedHost, config.templates.imports, config.templates.animatedImports]

/-- Each path is joined to the directory that settings are seen from, once. -/
theorem paths_resolved (base : Path) (config : Config) :
    (config.resolved base).paths = config.paths.map base.join :=
  -- No other setting is read as a path.
  rfl

/-- Settings seen from one directory and then from another are seen from both at once. -/
theorem resolved_resolved (config : Config) (inner outer : Path) :
    (config.resolved inner).resolved outer = config.resolved (outer.join inner) := by
  -- In each of the paths, what is joined twice can be joined from either side.
  simp only [resolved, Path.join_assoc]

/--
Seeing settings from a directory is joining it to their paths, in whichever steps that is done.

So a project can be moved about with its settings, and once its paths start at the root directory
nothing can change them any more.
-/
theorem resolved_joins_paths (config : Config) :
    (∀ inner outer : Path,
      (config.resolved inner).resolved outer = config.resolved (outer.join inner)) ∧
    (∀ base : Path, base.isAbsolute = true →
      (∀ path ∈ (config.resolved base).paths, path.isAbsolute = true) ∧
      ∀ other, (config.resolved base).resolved other = config.resolved base) ∧
    ∀ base : Path,
      (config.resolved base).paths = config.paths.map base.join ∧
      List.Forall₂ (fun before after => before.isAbsolute = true → after = before)
        config.paths (config.resolved base).paths ∧
      (config.resolved base).names = config.names ∧
      (config.resolved base).output.fileExtension = config.output.fileExtension ∧
      (config.resolved base).capabilities = config.capabilities := by
  refine ⟨config.resolved_resolved, fun base rooted => ⟨?absolute, fun other => ?settled⟩,
    fun base => ⟨config.paths_resolved base, ?kept, rfl, rfl, rfl⟩⟩
  case absolute =>
    rw [paths_resolved, List.forall_mem_map]
    exact fun path _ => Path.isAbsolute_join rooted path
  case settled =>
    -- Both directories at once are the first of them.
    rw [resolved_resolved, Path.join_of_isAbsolute rooted]
  case kept =>
    rw [paths_resolved, List.forall₂_map_right_iff, List.forall₂_same]
    exact fun path _ => Path.join_of_isAbsolute

/-- An absolute directory and an empty path to the manifest, seen from two directories. -/
theorem resolved_joins_paths_of_empty_manifest :
    let config : Config :=
      { output := { directory := ⟨"/out"⟩ }
        input := { manifest := ⟨""⟩ } }
    let inner : Path := ⟨"a"⟩
    let outer : Path := ⟨"/b/"⟩
    outer.isAbsolute = true ∧
      (config.resolved inner).resolved outer = config.resolved ⟨"/b/a"⟩ ∧
      (config.resolved outer).resolved inner = config.resolved outer ∧
      (config.resolved inner).paths.take 3 =
        [⟨"/out"⟩, ⟨"a/"⟩, ⟨"a/templates/aggregate.kt.tmpl"⟩] := by
  -- The second directory is absolute, so nothing is left of the first one.
  intro config inner outer
  have rooted : outer.isAbsolute = true := by decide
  have both : outer.join inner = ⟨"/b/a"⟩ := by decide +kernel
  obtain ⟨twice, settled, joined⟩ := resolved_joins_paths config
  refine ⟨rooted, both ▸ twice inner outer, (settled outer rooted).2 inner, ?_⟩
  rw [(joined inner).1]
  decide +kernel

end Navigation.Config
