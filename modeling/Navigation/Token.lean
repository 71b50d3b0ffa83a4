/-! Bracketed tokens: the marks a template is cut at, which no value put into one may contain. -/

namespace Navigation.Token

/-- Capital letters, digits and underscores may follow the first letter of a token's name. -/
def isNamePart (c : Char) : Bool :=
  c.isUpper || c.isDigit || c == '_'

/-- A token's name is a capital ASCII letter followed by any run of name parts. -/
def isName : List Char → Bool
  | [] => false
  | c :: rest => c.isUpper && rest.all isNamePart

/-- Reads name parts up to the closing bracket, and gives them with the text after it. -/
def closing? : List Char → Option (List Char × List Char)
  | [] => none
  | c :: rest =>
    if c = ']' then some ([], rest)
    else if isNamePart c then (closing? rest).map fun (name, after) => (c :: name, after)
    else none

/-- Reads a token at the very start of the text, and gives its name with the text after it. -/
def opening? : List Char → Option (List Char × List Char)
  | '[' :: c :: rest =>
    if c.isUpper then (closing? rest).map fun (name, after) => (c :: name, after) else none
  | _ => none

/-- Brackets put around a name, whatever the name is. -/
def bracket (name : List Char) : List Char :=
  '[' :: (name ++ [']'])

/-- The bracketed form of a name. -/
def write (name : String) : String :=
  String.ofList (bracket name.toList)

/-- One token of a text: the text is `before`, the bracketed name, and `after`. -/
structure Occurrence where
  before : List Char
  name : List Char
  after : List Char
  deriving DecidableEq

/-- The text an occurrence was found in. -/
def Occurrence.text (found : Occurrence) : List Char :=
  found.before ++ bracket found.name ++ found.after

/-- The text that an occurrence ends. -/
def Occurrence.upTo (found : Occurrence) : List Char :=
  found.before ++ bracket found.name

/-- What is behind an occurrence is shorter than the text. -/
theorem Occurrence.length_after_lt {found : Occurrence} {text : List Char}
    (whole : found.text = text) : found.after.length < text.length := by
  -- The brackets alone take two characters.
  simp only [← whole, Occurrence.text, bracket, List.length_append, List.length_cons]
  omega

/-- The number of bytes a text takes in UTF-8. -/
def byteLength : List Char → Nat
  | [] => 0
  | c :: rest => c.utf8Size + byteLength rest

/-- Byte position of the opening bracket. -/
def Occurrence.start (found : Occurrence) : Nat :=
  byteLength found.before

/-- Byte position just behind the closing bracket. -/
def Occurrence.stop (found : Occurrence) : Nat :=
  found.start + byteLength (bracket found.name)

/-- The leftmost token of a text. -/
def find? : List Char → Option Occurrence
  | [] => none
  | c :: rest =>
    match opening? (c :: rest) with
    | some (name, after) => some ⟨[], name, after⟩
    | none => (find? rest).map fun found => { found with before := c :: found.before }

/-- Whether a text holds a token anywhere. -/
def occursIn (text : String) : Bool :=
  (find? text.toList).isSome

/-- A closed name is the text up to the first bracket behind it. -/
theorem eq_of_closing? {text name after : List Char} (closed : closing? text = some (name, after)) :
    text = name ++ ']' :: after := by
  -- Each step either stops at the bracket or moves one name part over.
  induction text generalizing name with
  | nil => simp [closing?] at closed
  | cons c rest ih =>
    rw [closing?] at closed
    split at closed
    · next bracket => simp_all
    · split at closed
      · obtain ⟨⟨tail, left⟩, found, same⟩ := Option.map_eq_some_iff.1 closed
        simp only [Prod.mk.injEq] at same
        obtain ⟨rfl, rfl⟩ := same
        simp [ih found]
      · simp at closed

/-- A token read at the start of a text is the bracketed name, followed by the rest. -/
theorem eq_of_opening? {text name after : List Char} (opened : opening? text = some (name, after)) :
    text = bracket name ++ after := by
  -- Only a text that starts with a bracket and a capital letter is read at all.
  unfold opening? at opened
  split at opened
  · split at opened
    · obtain ⟨⟨tail, left⟩, found, same⟩ := Option.map_eq_some_iff.1 opened
      simp only [Prod.mk.injEq] at same
      obtain ⟨rfl, rfl⟩ := same
      simp [bracket, eq_of_closing? found]
    · simp at opened
  · simp at opened

/-- An occurrence cuts the text it was found in, losing nothing. -/
theorem text_of_find? {text : List Char} {found : Occurrence} (located : find? text = some found) :
    found.text = text := by
  -- The search keeps the characters it steps over in front of the occurrence.
  induction text generalizing found with
  | nil => simp [find?] at located
  | cons c rest ih =>
    rw [find?] at located
    split at located
    · next opened =>
      simp only [Option.some.injEq] at located
      subst located
      simp [Occurrence.text, eq_of_opening? opened]
    · obtain ⟨inner, deeper, rfl⟩ := Option.map_eq_some_iff.1 located
      simp [Occurrence.text, ← ih deeper]

end Navigation.Token
