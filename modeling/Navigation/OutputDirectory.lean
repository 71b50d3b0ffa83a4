import Navigation.Artifact
import Navigation.Event
import Navigation.FileTree

/-! Artifacts written to files: one directory for each part of the package, then the file. -/

namespace Navigation

/-- The directory artifacts are written below, and the extension of their files. -/
structure OutputDirectory where
  root : Path
  extension : String
  deriving DecidableEq

namespace OutputDirectory

/-- The parts of a package that name directories. -/
def packageParts (package : String) : List Path :=
  ((cutAt '.' package.toList).filter (!·.isEmpty)).map fun part => ⟨String.ofList part⟩

/-- The path of an artifact's file. -/
def pathOf (output : OutputDirectory) (artifact : Artifact) : Path :=
  ((packageParts artifact.package).foldl Path.join output.root).join
    ⟨artifact.name ++ "." ++ output.extension⟩

/-- Writes an artifact's file, making the directories it needs first. -/
def sink (output : OutputDirectory) : Sink FileTree IoError := fun artifact tree =>
  let path := output.pathOf artifact
  let (made, tree) := match path.parent? with
    | some parent => tree.makeDirectories parent
    | none => (.ok (), tree)
  match made with
  | .error cause => (.error cause, tree)
  | .ok () =>
    match tree.write path artifact.contents.toUTF8 with
    | .ok tree => (.ok (), tree)
    | .error cause => (.error cause, tree)

/-- What is reported of an artifact that was written. -/
def report (output : OutputDirectory) (artifact : Artifact) : List Event :=
  [.artifactWritten (output.pathOf artifact).text artifact.sourceIds.length]

end OutputDirectory

end Navigation
