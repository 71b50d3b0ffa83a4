/-! JSON values, with their numbers kept as they are written. -/

namespace Navigation.Json

/-- A JSON value.

A string may spell half of a surrogate pair, and then it holds no text; so may a key. -/
inductive Value where
  | null
  | flag (value : Bool)
  | number (lexeme : String)
  | text (value? : Option String)
  | array (items : List Value)
  | object (entries : List (Option String × Value))

/-- A string value that holds a text. -/
def Value.ofText (value : String) : Value :=
  .text (some value)

/-- An array of texts. -/
def Value.ofTexts (values : List String) : Value :=
  .array (values.map .ofText)

end Navigation.Json
