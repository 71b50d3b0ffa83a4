/-! TOML values, with the tables remembering how they came about. -/

namespace Navigation.Toml

/-- How a table came about, which decides how it can be extended later. -/
inductive Origin where
  /-- Written as a value between braces. -/
  | inline
  /-- Opened by a header of its own, or the document's own table. -/
  | header
  /-- Passed through by the header of a table below it. -/
  | implied
  /-- Passed through by a dotted key. -/
  | dotted
  deriving DecidableEq

/-- A TOML value; numbers and points in time are kept as they are written. -/
inductive Value where
  | text (value : String)
  | flag (value : Bool)
  | number (lexeme : String)
  | moment (lexeme : String)
  /-- An array; `ofTables` says that headers made it, and may add further tables. -/
  | array (ofTables : Bool) (items : List Value)
  | table (origin : Origin) (entries : List (String × Value))

/-- The entries of a table, in the order of their first mention. -/
abbrev Entries :=
  List (String × Value)

namespace Entries

/-- Gives a key a value, in place of any value it has. -/
def set (key : String) (value : Value) : Entries → Entries
  | [] => [(key, value)]
  | (first, old) :: rest =>
    if first = key then (key, value) :: rest else (first, old) :: set key value rest

end Entries

end Navigation.Toml
