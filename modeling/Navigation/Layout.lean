/-! Indented code, laid out from lines that open and close blocks. -/

namespace Navigation.Layout

/-- One line of code, and what it does to the depth of the lines behind it. -/
inductive Step where
  | line (text : String)
  | blank
  | opens (text : String)
  | closes (text : String)
  deriving DecidableEq

/-- The indent of a line inside a number of blocks. -/
def indent (depth : Nat) : String :=
  String.ofList (List.replicate (4 * depth) ' ')

/-- The lines of code whose first one is inside a number of blocks. -/
def lines : Nat → List Step → List String
  | _, [] => []
  | depth, .line text :: rest => (indent depth ++ text) :: lines depth rest
  | depth, .blank :: rest => "" :: lines depth rest
  | depth, .opens text :: rest => (indent depth ++ text) :: lines (depth + 1) rest
  | depth, .closes text :: rest => (indent (depth - 1) ++ text) :: lines (depth - 1) rest

/-- Code as a text that has no line feed at its end. -/
def render (steps : List Step) : String :=
  "\n".intercalate (lines 0 steps)

/-- One item a line, with a comma behind each but the last. -/
def listed : List String → List Step
  | [] => []
  | [last] => [.line last]
  | item :: rest => .line (item ++ ",") :: listed rest

end Navigation.Layout
