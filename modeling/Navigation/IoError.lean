import Navigation.Path

/-! What can go wrong when files are read and written. -/

namespace Navigation

/-- Why the file system refused an operation. -/
inductive IoError where
  | notFound
  | alreadyExists
  | notDirectory
  | isDirectory
  /-- The contents of a file are no UTF-8 text. -/
  | invalidText
  /-- A name holds the character that ends names. -/
  | nulInName
  deriving DecidableEq

/-- The sentence a refusal is reported by. -/
def IoError.message : IoError → String
  | .notFound => "No such file or directory (os error 2)"
  | .alreadyExists => "File exists (os error 17)"
  | .notDirectory => "Not a directory (os error 20)"
  | .isDirectory => "Is a directory (os error 21)"
  | .invalidText => "stream did not contain valid UTF-8"
  | .nulInName => "file name contained an unexpected NUL byte"

/-- The sentence that reports why a file could not be read. -/
def IoError.readMessage (path : Path) (cause : IoError) : String :=
  "failed to read " ++ path.text ++ ": " ++ cause.message

end Navigation
