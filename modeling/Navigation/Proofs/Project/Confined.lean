import Navigation.Proofs.Path.Components
import Navigation.Proofs.Project.Delivery

/-! Artifacts with valid names stay below the output directory, each at a path of its own. -/

namespace Navigation

namespace Config

/-- An identifier does not start with a dot. -/
theorem head?_ne_of_isIdentifier {text : List Char} (identifier : isIdentifier text = true) :
    text.head? ≠ some '.' := by
  cases text with
  | nil => exact nofun
  | cons c rest =>
    -- A dot is neither a letter nor an underscore.
    intro same
    cases Option.some.inj same
    rw [isIdentifier, Bool.and_eq_true] at identifier
    exact absurd identifier.1 (by decide)

/-- A directory that is named by an identifier is one level down. -/
theorem isStep_of_isIdentifier {name : String} (identifier : isIdentifier name.toList = true) :
    Path.IsStep name := by
  -- An identifier has characters, but no slash and no dot in front.
  refine Path.IsName.isStep ⟨?_, slash_not_mem_of_isIdentifier identifier⟩
    (head?_ne_of_isIdentifier identifier)
  rintro rfl
  exact absurd identifier (by decide)

/-- A file that is named by an identifier, a dot, and an extension is one level down. -/
theorem isStep_of_isExtension {name fileExtension : String}
    (identifier : isIdentifier name.toList = true)
    (ending : isExtension fileExtension.toList = true) :
    Path.IsStep (name ++ "." ++ fileExtension) := by
  refine (isName_of_isIdentifier identifier ending).isStep ?_
  -- The name of the file starts as the identifier does.
  obtain ⟨c, rest, text⟩ := List.exists_cons_of_ne_nil
    (isStep_of_isIdentifier identifier).isName.chars_ne_nil
  have start := head?_ne_of_isIdentifier identifier
  rw [text] at start
  rwa [String.toList_append, String.toList_append, text]

/-- The parts of a package are identifiers. -/
theorem isStep_of_mem_package {package : String} (valid : isPackage package.toList = true)
    {name : String} (listed : name ∈ (cutAt '.' package.toList).map String.ofList) :
    Path.IsStep name := by
  -- Each part of a package is an identifier.
  obtain ⟨part, cut, rfl⟩ := List.mem_map.1 listed
  apply isStep_of_isIdentifier
  rw [String.toList_ofList]
  exact List.all_eq_true.1 valid part cut

end Config

/-- Whether an artifact has a package and a name that validation accepts. -/
structure Artifact.IsNamed (artifact : Artifact) : Prop where
  package : Config.isPackage artifact.package.toList = true
  name : Config.isIdentifier artifact.name.toList = true

/-- Whether artifacts are called what they were to be called. -/
structure Generated.NamedBy (generated : Generated) (names : OutputNames) : Prop where
  aggregatePackage : generated.aggregate.package = names.package
  aggregateName : generated.aggregate.name = names.aggregate
  sealedPackage : generated.sealedDestination.package = names.package
  sealedName : generated.sealedDestination.name = names.sealedDestination

/-- The names that valid settings give to artifacts are valid. -/
theorem Config.Valid.isNamed {config : Config} (valid : config.Valid) {generated : Generated}
    (named : generated.NamedBy config.names) :
    ∀ artifact ∈ generated.artifacts, artifact.IsNamed := by
  -- Both artifacts have the package of the settings, and a name of their own from there.
  rw [Generated.artifacts, List.forall_mem_cons, List.forall_mem_singleton]
  constructor
  · exact ⟨named.aggregatePackage ▸ valid.package, named.aggregateName ▸ valid.aggregateName⟩
  · exact ⟨named.sealedPackage ▸ valid.package, named.sealedName ▸ valid.sealedDestinationName⟩

namespace OutputDirectory

/-- What leads from an output directory to an artifact: one directory for each part of the
package, and then the file. -/
def added (output : OutputDirectory) (artifact : Artifact) : List String :=
  (cutAt '.' artifact.package.toList).map String.ofList ++
    [artifact.name ++ "." ++ output.extension]

/-- What it is for the path of an artifact to stay below the output directory. -/
structure Confined (output : OutputDirectory) (artifact : Artifact) : Prop where
  /-- The directory is kept as it is written, with names and slashes behind it. -/
  chars : (output.pathOf artifact).chars =
    output.root.chars ++
      (Path.gap output.root.chars ++ ("/".intercalate (output.added artifact)).toList)
  components : (output.pathOf artifact).components =
    output.root.components ++ output.added artifact
  isStep : ∀ name ∈ output.added artifact, Path.IsStep name
  isAbove : output.root.IsAbove (output.pathOf artifact)

section

variable {output : OutputDirectory} {artifact : Artifact}

/-- No part of a valid package is left out. -/
theorem packageParts_eq {package : String} (valid : Config.isPackage package.toList = true) :
    packageParts package = ((cutAt '.' package.toList).map String.ofList).map Path.mk := by
  -- An identifier is not empty.
  have filled : ∀ part ∈ cutAt '.' package.toList, (!part.isEmpty) = true := by
    intro part cut
    have identifier : Config.isIdentifier part = true := List.all_eq_true.1 valid part cut
    cases part with
    | nil => exact absurd identifier (by decide)
    | cons c rest => rfl
  rw [packageParts, List.filter_eq_self.2 filled, List.map_map]
  rfl

/-- An artifact with a valid name stays below the output directory. -/
theorem confined (named : artifact.IsNamed)
    (ending : Config.isExtension output.extension.toList = true) : output.Confined artifact := by
  -- Each part of the package leads one level down, and so does the file.
  have directories : ∀ name ∈ (cutAt '.' artifact.package.toList).map String.ofList,
      Path.IsStep name :=
    fun name listed => Config.isStep_of_mem_package named.package listed
  have file : Path.IsStep (artifact.name ++ "." ++ output.extension) :=
    Config.isStep_of_isExtension named.name ending
  have steps : ∀ name ∈ output.added artifact, Path.IsStep name :=
    List.forall_mem_append.2 ⟨directories, List.forall_mem_singleton.2 file⟩
  have components : (output.pathOf artifact).components =
      output.root.components ++ output.added artifact := by
    rw [pathOf, packageParts_eq named.package, Path.components_join_step _ file,
      Path.components_foldl_join _ directories, List.append_assoc]
    rfl
  refine ⟨?chars, components, steps, output.added artifact, by simp [added], components⟩
  case chars =>
    -- Joined one after the other, they are the same as joined at once with slashes between them.
    have path : output.pathOf artifact =
        output.root.join ⟨"/".intercalate (output.added artifact)⟩ := by
      rw [pathOf, packageParts_eq named.package]
      exact Path.foldl_join_eq output.root (fun name listed => (directories name listed).isName)
        file.isName
    have relative := Path.isRooted_intercalate fun name listed => (steps name listed).isName
    rw [path, Path.join, Path.chars, String.toList_ofList]
    exact Path.joinChars_of_relative relative

/-- What leads to artifacts tells which ones they are. -/
theorem eq_of_added_eq {artifact' : Artifact}
    (same : output.added artifact = output.added artifact') :
    artifact.package = artifact'.package ∧ artifact.name = artifact'.name := by
  -- The last name is that of the file, and the extension is the same for both.
  obtain ⟨directories, files⟩ := List.append_inj' same rfl
  rw [List.singleton_inj, String.append_left_inj, String.append_left_inj] at files
  have parts := (List.map_inj_right fun _ _ => String.ofList_inj.1).1 directories
  exact ⟨String.toList_injective (cutAt_injective '.' parts), files⟩

/-- Artifacts with the same path below a directory have the same package and the same name. -/
theorem Confined.eq_of_components_eq {artifact' : Artifact} (confined : output.Confined artifact)
    (confined' : output.Confined artifact')
    (same : (output.pathOf artifact).components = (output.pathOf artifact').components) :
    artifact.package = artifact'.package ∧ artifact.name = artifact'.name := by
  -- The directory is the same, so what was added to it is.
  rw [confined.components, confined'.components] at same
  exact eq_of_added_eq (List.append_cancel_left same)

/-- Artifacts of one package have paths that are equally deep, so none is above another. -/
theorem Confined.apart {artifact' : Artifact} (confined : output.Confined artifact)
    (confined' : output.Confined artifact') (packages : artifact.package = artifact'.package)
    (names : artifact.name ≠ artifact'.name) :
    (output.pathOf artifact).Apart (output.pathOf artifact') := by
  -- Each path leads through the directory and the package, and then to one file.
  have deep : (output.pathOf artifact).components.length =
      (output.pathOf artifact').components.length := by
    rw [confined.components, confined'.components]
    simp only [added, packages, List.length_append, List.length_singleton]
  exact ⟨fun same => names (confined.eq_of_components_eq confined' same).2,
    fun isAbove => absurd isAbove.length_lt (by omega),
    fun isAbove => absurd isAbove.length_lt (by omega)⟩

end

end OutputDirectory

namespace Project

open Outcome (bind_eq_ok_iff map_eq_ok_iff mapError_eq_ok_iff)

/-- Artifacts with the names of valid settings stay below the directory of the settings. -/
theorem confined_of_valid {config : Config} (valid : config.Valid) {generated : Generated}
    (named : generated.NamedBy config.names) :
    ∀ artifact ∈ generated.artifacts, (outputOf config).Confined artifact :=
  -- Valid settings have valid names, and a valid extension to put behind them.
  fun artifact listed =>
    OutputDirectory.confined (valid.isNamed named artifact listed) valid.fileExtension

/-- What a run makes has the names of its settings. -/
theorem namedBy_of_made {files : FileTree} {config : Config} {generated : Generated}
    (given : made files config = .ok generated) : generated.NamedBy config.names := by
  -- The names are handed on to generation, whatever was read.
  obtain ⟨⟨destinations, templates⟩, -, given⟩ := bind_eq_ok_iff.1 given
  rw [mapError_eq_ok_iff] at given
  obtain ⟨tree, -, rfl⟩ := map_eq_ok_iff.1 given
  exact ⟨rfl, rfl, rfl, rfl⟩

/-- Whatever a run finds in a directory, what it makes stays below its output directory. -/
theorem confined_of_made {files : FileTree} {environment : Environment} {directory : Path}
    {config : Config} {generated : Generated}
    (settled : settings files environment directory = .ok config)
    (given : made files config = .ok generated) :
    ∀ artifact ∈ generated.artifacts, (outputOf config).Confined artifact :=
  -- The settings of a run are valid, whether they are read or the defaults.
  confined_of_valid (valid_of_settings settled) (namedBy_of_made given)

/--
Valid settings keep both artifacts below the output directory, at different paths.

No package and no name can lead out of the directory or replace it, and no path stands for two
artifacts.
-/
theorem confined_of_validate {config : Config} (accepted : config.validate = .ok ())
    {generated : Generated} (named : generated.NamedBy config.names) :
    let output := outputOf config
    let aggregate := output.pathOf generated.aggregate
    let sealedDestination := output.pathOf generated.sealedDestination
    (∀ artifact ∈ generated.artifacts, output.Confined artifact) ∧
    aggregate.Apart sealedDestination ∧
    (∀ directory ∈ aggregate.parents, directory.components ≠ sealedDestination.components) ∧
    (∀ directory ∈ sealedDestination.parents, directory.components ≠ aggregate.components) ∧
    ∀ (other : Config) (generated' : Generated),
      other.validate = .ok () → generated'.NamedBy other.names → outputOf other = output →
      ∀ artifact ∈ generated.artifacts, ∀ artifact' ∈ generated'.artifacts,
        (output.pathOf artifact).components = ((outputOf other).pathOf artifact').components →
        artifact.package = artifact'.package ∧ artifact.name = artifact'.name := by
  intro output aggregate sealedDestination
  have valid := Config.validate_eq_ok_iff.1 accepted
  have below : ∀ artifact ∈ generated.artifacts, output.Confined artifact :=
    confined_of_valid valid named
  have apart : aggregate.Apart sealedDestination := by
    have first : generated.aggregate ∈ generated.artifacts := List.mem_cons_self
    have second : generated.sealedDestination ∈ generated.artifacts :=
      List.mem_cons_of_mem _ List.mem_cons_self
    -- Both are in one package, and validation demands that their names differ.
    refine (below _ first).apart (below _ second) ?_ ?_
    · rw [named.aggregatePackage, named.sealedPackage]
    · rw [named.aggregateName, named.sealedName]
      exact valid.names_ne
  refine ⟨below, apart, fun directory => apart.components_ne_of_mem_parents,
    fun directory => apart.symm.components_ne_of_mem_parents, ?injective⟩
  case injective =>
    -- The other settings are valid as well, and their artifacts go to the same directory.
    intro other generated' accepted' named' outputs artifact listed artifact' listed' same
    have below' := confined_of_valid (Config.validate_eq_ok_iff.1 accepted') named'
    rw [outputs] at same below'
    exact (below artifact listed).eq_of_components_eq (below' artifact' listed') same

/-- A directory that is written with a dot and two slashes more than it needs. -/
theorem confined_of_validate_of_dotted_directory :
    let config : Config :=
      { output := { package := "com.example_1._", directory := ⟨"/out/.//x/"⟩ } }
    let generated : Generated :=
      { aggregate := ⟨"com.example_1._", "Destinations", ["a.kt"], "aggregate"⟩
        sealedDestination := ⟨"com.example_1._", "Destination", [], "sealed"⟩ }
    let output := outputOf config
    config.validate = .ok () ∧ generated.NamedBy config.names ∧
      output.pathOf generated.aggregate = ⟨"/out/.//x/com/example_1/_/Destinations.kt"⟩ ∧
      (output.pathOf generated.aggregate).components =
        ["/", "out", "x", "com", "example_1", "_", "Destinations.kt"] ∧
      output.root.IsAbove (output.pathOf generated.aggregate) ∧
      (output.pathOf generated.aggregate).Apart (output.pathOf generated.sealedDestination) := by
  -- The directory's parts that lead nowhere are gone from the components.
  intro config generated output
  have accepted : config.validate = .ok () := by decide +kernel
  have named : generated.NamedBy config.names := ⟨rfl, rfl, rfl, rfl⟩
  obtain ⟨below, apart, -, -, -⟩ := confined_of_validate accepted named
  have confined : output.Confined generated.aggregate := below _ List.mem_cons_self
  refine ⟨accepted, named, by decide +kernel, ?_, confined.isAbove, apart⟩
  rw [confined.components]
  decide +kernel

end Project

end Navigation
