import Navigation.IoError

/-! Files and directories as a value: reading and writing by path, seen from a working directory. -/

namespace Navigation

/-- The names that lead from the root directory to a place. -/
abbrev Location :=
  List String

/-- What a place holds. -/
inductive Entry where
  | directory
  | file (contents : ByteArray)

/-- The places that hold something, and the directory relative paths start from. -/
structure FileTree where
  entries : List (Location × Entry) := []
  here : Location := []

namespace FileTree

/-- What a place holds; the root directory is always there. -/
def entry? (tree : FileTree) (location : Location) : Option Entry :=
  if location.isEmpty then some .directory else tree.entries.lookup location

/-- Entries with what one place holds replaced, or added. -/
def replace (location : Location) (entry : Entry) :
    List (Location × Entry) → List (Location × Entry)
  | [] => [(location, entry)]
  | (first, old) :: rest =>
    if first = location then (location, entry) :: rest
    else (first, old) :: replace location entry rest

/-- A tree in which a place holds something else. -/
def set (tree : FileTree) (location : Location) (entry : Entry) : FileTree :=
  { tree with entries := replace location entry tree.entries }

/-- The directory that names lead to from a directory; two dots lead one level up. -/
def walk (tree : FileTree) (start : Location) : List String → Except IoError Location
  | [] => .ok start
  | name :: rest =>
    if name = "." then walk tree start rest
    else if name = ".." then walk tree start.dropLast rest
    else
      match tree.entry? (start ++ [name]) with
      | some .directory => walk tree (start ++ [name]) rest
      | some (.file _) => .error .notDirectory
      | none => .error .notFound

/-- What a path means once the directories on its way are known. -/
inductive Target where
  /-- A directory that is there, since the path does not end in a name of its own. -/
  | directory (location : Location)
  /-- A name in a directory that is there; the place itself may hold nothing. -/
  | named (location : Location)
  deriving DecidableEq

/-- Finds the place a path means. -/
def locate (tree : FileTree) (path : Path) : Except IoError Target :=
  if path.chars.contains '\x00' then .error .nulInName
  else if path.chars.isEmpty then .error .notFound
  else
    let start := if path.isAbsolute then [] else tree.here
    match path.names.getLast? with
    | none => .ok (.directory [])
    | some last =>
      if last = "." ∨ last = ".." then (tree.walk start path.names).map .directory
      else (tree.walk start path.names.dropLast).map fun location => .named (location ++ [last])

/-- What a path leads to; a file is not found behind a slash. -/
def status (tree : FileTree) (path : Path) : Except IoError Entry := do
  match ← tree.locate path with
  | .directory _ => .ok .directory
  | .named location =>
    match tree.entry? location with
    | none => .error .notFound
    | some .directory => .ok .directory
    | some (.file contents) =>
      if path.endsInSlash then .error .notDirectory else .ok (.file contents)

/-- Whether a path leads to a file. -/
def isFile (tree : FileTree) (path : Path) : Bool :=
  match tree.status path with
  | .ok (.file _) => true
  | _ => false

/-- Whether a path leads to a directory. -/
def isDirectory (tree : FileTree) (path : Path) : Bool :=
  match tree.status path with
  | .ok .directory => true
  | _ => false

/-- The text in the file at a path. -/
def read (tree : FileTree) (path : Path) : Except IoError String := do
  match ← tree.status path with
  | .directory => .error .isDirectory
  | .file contents =>
    match String.fromUTF8? contents with
    | some text => .ok text
    | none => .error .invalidText

/-- Makes the directory at a path, in a directory that is there. -/
def makeDirectory (tree : FileTree) (path : Path) : Except IoError FileTree := do
  match ← tree.locate path with
  | .directory _ => .error .alreadyExists
  | .named location =>
    match tree.entry? location with
    | some _ => .error .alreadyExists
    | none => .ok (tree.set location .directory)

/-- Makes the first of the given directories, each of which is in the one behind it. -/
def makeAll (tree : FileTree) : List Path → Except IoError Unit × FileTree
  | [] => (.ok (), tree)
  | path :: above =>
    if path.text = "" then (.ok (), tree)
    else
      match tree.makeDirectory path with
      | .ok tree => (.ok (), tree)
      | .error .notFound =>
        match makeAll tree above with
        | (.error cause, tree) => (.error cause, tree)
        | (.ok (), tree) =>
          match tree.makeDirectory path with
          | .ok tree => (.ok (), tree)
          | .error cause => (if tree.isDirectory path then .ok () else .error cause, tree)
      | .error cause => (if tree.isDirectory path then .ok () else .error cause, tree)

/-- Makes a directory and all those above it that are missing. -/
def makeDirectories (tree : FileTree) (path : Path) : Except IoError Unit × FileTree :=
  tree.makeAll (path :: path.parents)

/-- Writes a file in a directory that is there, in place of any file at the path. -/
def write (tree : FileTree) (path : Path) (contents : ByteArray) : Except IoError FileTree := do
  match ← tree.locate path with
  | .directory _ => .error .isDirectory
  | .named location =>
    if path.endsInSlash then .error .isDirectory
    else
      match tree.entry? location with
      | some .directory => .error .isDirectory
      | _ => .ok (tree.set location (.file contents))

end FileTree

end Navigation
