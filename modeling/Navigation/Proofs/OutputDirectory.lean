import Navigation.OutputDirectory
import Navigation.Proofs.FileTree
import Navigation.Proofs.Path

/-! Artifacts written below an output directory: each is in a file of its own afterwards. -/

namespace Navigation.OutputDirectory

open FileTree (Grows Wrote)

variable {output : OutputDirectory} {artifact : Artifact}

/-- A sink that succeeds has made directories, and then written the artifact's file. -/
theorem write_of_sink {before after : FileTree}
    (delivered : output.sink artifact before = (.ok (), after)) :
    ∃ between, Grows before between ∧
      between.write (output.pathOf artifact) artifact.contents.toUTF8 = .ok after := by
  rw [sink] at delivered
  -- A path without a directory above it needs none to be made.
  cases parent : (output.pathOf artifact).parent? with
  | none =>
    cases written : before.write (output.pathOf artifact) artifact.contents.toUTF8 with
    | error cause =>
      simp only [parent, written] at delivered
      exact absurd (congrArg Prod.fst delivered) nofun
    | ok tree =>
      simp only [parent, written] at delivered
      exact ⟨before, .refl before, (congrArg Except.ok (congrArg Prod.snd delivered)) ▸ written⟩
  | some directory =>
    -- Otherwise the directories are made first, and then the file is written.
    have grows := FileTree.grows_makeDirectories before directory
    cases made : before.makeDirectories directory with
    | mk result between =>
      rw [made] at grows
      cases result with
      | error cause =>
        simp only [parent, made] at delivered
        exact absurd (congrArg Prod.fst delivered) nofun
      | ok done =>
        cases written : between.write (output.pathOf artifact) artifact.contents.toUTF8 with
        | error cause =>
          simp only [parent, made, written] at delivered
          exact absurd (congrArg Prod.fst delivered) nofun
        | ok tree =>
          simp only [parent, made, written] at delivered
          exact ⟨between, grows, (congrArg Except.ok (congrArg Prod.snd delivered)) ▸ written⟩

/-- A sink that succeeds has changed the place of the file, and else only made directories. -/
theorem wrote_of_sink {before after : FileTree}
    (delivered : output.sink artifact before = (.ok (), after)) :
    ∃ location, Wrote (output.pathOf artifact) artifact.contents location before after := by
  -- The directories are made first, and that spares all files.
  obtain ⟨between, grows, written⟩ := write_of_sink delivered
  obtain ⟨location, wrote⟩ := FileTree.wrote_of_write written
  exact ⟨location, wrote.of_grows grows⟩

/-- The path of an artifact's file ends in the name of the file. -/
theorem getLast?_names_pathOf
    (plain : Path.IsName (artifact.name ++ "." ++ output.extension)) :
    (output.pathOf artifact).names.getLast? =
      some (artifact.name ++ "." ++ output.extension) := by
  -- The file's name is joined to the path as its last part.
  rw [pathOf, Path.names_join_name plain, List.getLast?_concat]

/-- Artifacts with different names are in different places. -/
theorem ne_of_name_ne {artifact' : Artifact} {tree tree' : FileTree}
    {location location' : Location}
    (plain : Path.IsName (artifact.name ++ "." ++ output.extension))
    (plain' : Path.IsName (artifact'.name ++ "." ++ output.extension))
    (found : tree.locate (output.pathOf artifact) = .ok (.named location))
    (found' : tree'.locate (output.pathOf artifact') = .ok (.named location'))
    (names : artifact.name ≠ artifact'.name) : location ≠ location' := by
  -- The last name of a place is that of its file, and the extension is the same for both.
  rintro rfl
  have last := FileTree.getLast?_of_locate found
  have last' := FileTree.getLast?_of_locate found'
  rw [getLast?_names_pathOf plain] at last
  rw [getLast?_names_pathOf plain', last] at last'
  have files := Option.some.inj last'
  rw [String.append_left_inj, String.append_left_inj] at files
  exact names files

end Navigation.OutputDirectory
