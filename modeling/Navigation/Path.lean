import Navigation.Text.Cut

/-! Paths as texts: joining, and the directories above a path. Nothing is normalised. -/

namespace Navigation

/-- A path, as it is written. -/
structure Path where
  text : String
  deriving DecidableEq

namespace Path

/-- The characters of a path. -/
def chars (path : Path) : List Char :=
  path.text.toList

/-- Whether a text is an absolute path. -/
def isRooted (chars : List Char) : Bool :=
  chars.head? == some '/'

/-- Whether a path leads from the root directory. -/
def isAbsolute (path : Path) : Bool :=
  isRooted path.chars

/-- One text behind another, with a single slash added where one is needed.

An absolute text replaces what stands before it, and an empty one before it leaves no trace. -/
def joinChars (base other : List Char) : List Char :=
  if isRooted other then other
  else if base.isEmpty || base.getLast? == some '/' then base ++ other
  else base ++ '/' :: other

/-- The path that `other` is when seen from `base`. -/
def join (base other : Path) : Path :=
  ⟨String.ofList (joinChars base.chars other.chars)⟩

/-- Whether a part between slashes leads nowhere. -/
def isTrivial (part : List Char) : Bool :=
  part.isEmpty || part == ['.']

/-- The text of a path, from its first part and from the others in reverse order. -/
def assemble (first : List Char) (others : List (List Char)) : Path :=
  match first, others with
  | [], [] => ⟨"/"⟩
  | first, others => ⟨String.ofList (['/'].intercalate (first :: others.reverse))⟩

/-- The directories above a path, the nearest first, from the parts as `assemble` takes them.

A first part that is empty stands for the root directory, and has nothing above it. -/
def above (first : List Char) : List (List Char) → List Path
  | [] => if first.isEmpty then [] else [⟨""⟩]
  | part :: rest =>
    if isTrivial part then above first rest
    else assemble first (rest.dropWhile isTrivial) :: above first rest

/-- The directories above a path, the nearest first. -/
def parents (path : Path) : List Path :=
  match cutAt '/' path.chars with
  | first :: rest => above first rest.reverse
  | [] => []

/-- The directory a path is in, unless the path is empty or the root directory. -/
def parent? (path : Path) : Option Path :=
  path.parents.head?

/-- The names a path leads through; slashes alone lead nowhere. -/
def names (path : Path) : List String :=
  ((cutAt '/' path.chars).filter (!·.isEmpty)).map String.ofList

/-- Whether a path can only mean a directory, because a slash ends it. -/
def endsInSlash (path : Path) : Bool :=
  path.chars.getLast? == some '/'

end Path

end Navigation
