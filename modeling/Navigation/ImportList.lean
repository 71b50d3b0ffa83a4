import Navigation.NameSet
import Navigation.Text.Blank
import Navigation.Text.Cut

/-! Import lists: how they are read from a text, and the import block they are written as. -/

namespace Navigation.ImportList

/-- The word an import statement starts with, and the blank behind it. -/
def keyword : List Char :=
  "import ".toList

/-- The statement that imports a name. -/
def statement (name : String) : String :=
  "import " ++ name

/-- The statements for the listed names, and for those of the set that the list lacks. -/
def render (base : List String) (additional : NameSet) : String :=
  "\n".intercalate ((base ++ additional.names.filter fun name => !base.contains name).map statement)

/-- The rest of a text that starts with the keyword, or else the text itself. -/
def dropKeyword (line : List Char) : List Char :=
  if keyword.isPrefixOf line then line.drop keyword.length else line

/-- The name a line asks for; blank lines and comments ask for none. -/
def entry? (line : List Char) : Option String :=
  match trim line with
  | [] => none
  | c :: rest => if c = '#' then none else some (String.ofList (trim (dropKeyword (c :: rest))))

/-- The names a text lists, one a line, with or without the keyword. -/
def read (source : String) : List String :=
  (cutAt '\n' source.toList).filterMap entry?

end Navigation.ImportList
