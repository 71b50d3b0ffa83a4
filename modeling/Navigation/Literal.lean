/-! Quoted string literals of the generated code, with string templates switched off. -/

namespace Navigation.Literal

/-- What one character of a value is written as between the quotes. -/
def escape : Char → List Char
  | '\\' => ['\\', '\\']
  | '"' => ['\\', '"']
  | '$' => ['\\', '$']
  | '\n' => ['\\', 'n']
  | '\r' => ['\\', 'r']
  | '\t' => ['\\', 't']
  | c => [c]

/-- The characters of a literal, its two quotes included. -/
def encode (value : List Char) : List Char :=
  '"' :: (value.flatMap escape ++ ['"'])

/-- A value as a double-quoted literal. -/
def quote (value : String) : String :=
  String.ofList (encode value.toList)

end Navigation.Literal
