import Navigation.Text.Hex

/-! TOML strings: four ways to write them, and the blanks and comments between values. -/

namespace Navigation.Toml

/-- Whether a character stands for itself in strings and comments, as controls do not. -/
def isPlain (c : Char) : Bool :=
  c == '\t' || (0x20 ≤ c.toNat && c.toNat != 0x7f)

/-- Whether a character is a blank inside a line. -/
def isSpace (c : Char) : Bool :=
  c == ' ' || c == '\t'

/-- A text without the blanks at its start. -/
def skipSpaces (text : List Char) : List Char :=
  text.dropWhile isSpace

/-- The text behind a line break, if there is one at the start. -/
def lineBreak? : List Char → Option (List Char)
  | '\n' :: rest => some rest
  | '\r' :: '\n' :: rest => some rest
  | _ => none

/-- A text without any blanks and line breaks at its start. -/
def skipBlankLines : List Char → List Char
  | '\r' :: '\n' :: rest => skipBlankLines rest
  | c :: rest => if isSpace c || c == '\n' then skipBlankLines rest else c :: rest
  | [] => []

/-- The end of a comment, from the text behind its number sign: a line break, or nothing. -/
def comment? : List Char → Option (List Char)
  | [] => some []
  | c :: rest => if isPlain c then comment? rest else (lineBreak? (c :: rest)).map fun _ => c :: rest

/-- Skips a comment if there is one; what follows is at the end of its line. -/
def skipComment? : List Char → Option (List Char)
  | '#' :: rest => comment? rest
  | text => some text

/-- What a line may still hold once its statement is complete: blanks and a comment. -/
def lineEnd? (text : List Char) : Option (List Char) :=
  match skipComment? (skipSpaces text) with
  | some [] => some []
  | some rest => lineBreak? rest
  | none => none

/-- Reads a character by its number. -/
def coded? (width : Nat) (text : List Char) : Option (Char × List Char) :=
  match readHex? width text with
  | some (code, rest) => (charOf? code).map fun c => (c, rest)
  | none => none

/-- The character that a letter behind a backslash means. -/
def meaning? : Char → Option Char
  | 'b' => some '\x08'
  | 't' => some '\t'
  | 'n' => some '\n'
  | 'f' => some '\x0c'
  | 'r' => some '\r'
  | 'e' => some '\x1b'
  | '"' => some '"'
  | '\\' => some '\\'
  | _ => none

/-- How many digits of a character's number follow a letter behind a backslash. -/
def codeWidth? : Char → Option Nat
  | 'x' => some 2
  | 'u' => some 4
  | 'U' => some 8
  | _ => none

/-- Reads an escape, from the text behind its backslash. -/
def escape? : List Char → Option (Char × List Char)
  | [] => none
  | c :: rest =>
    match meaning? c with
    | some meant => some (meant, rest)
    | none =>
      match codeWidth? c with
      | some width => coded? width rest
      | none => none

/-- Reading a character by its number leaves no more text than there was. -/
theorem length_le_of_coded? {width : Nat} {text rest : List Char} {c : Char}
    (found : coded? width text = some (c, rest)) : rest.length ≤ text.length := by
  -- What is left of the text is what the digits leave.
  unfold coded? at found
  split at found
  · next number =>
    obtain ⟨_, _, same⟩ := Option.map_eq_some_iff.1 found
    simp only [Prod.mk.injEq] at same
    rw [← same.2]
    exact length_le_of_readHex? number
  · simp at found

/-- Reading an escape leaves less text than there was. -/
theorem length_lt_of_escape? {text rest : List Char} {c : Char}
    (found : escape? text = some (c, rest)) : rest.length < text.length := by
  -- The letter behind the backslash is always used up.
  cases text with
  | nil => simp [escape?] at found
  | cons letter after =>
    rw [escape?] at found
    split at found
    · simp_all
    · split at found
      · have shorter := length_le_of_coded? found
        simp
        omega
      · simp at found

/-- Reads a string up to its closing double quote. -/
def basic? : List Char → Option (List Char × List Char)
  | [] => none
  | c :: rest =>
    if c = '"' then some ([], rest)
    else if c = '\\' then
      match _escaped : escape? rest with
      | some (meant, after) => (basic? after).map fun (value, left) => (meant :: value, left)
      | none => none
    else if isPlain c then (basic? rest).map fun (value, left) => (c :: value, left)
    else none
termination_by text => text.length
decreasing_by
  · have := length_lt_of_escape? _escaped
    simp
    omega
  · simp

/-- Reads a string up to its closing single quote; nothing is an escape in it. -/
def literal? : List Char → Option (List Char × List Char)
  | [] => none
  | c :: rest =>
    if c = '\'' then some ([], rest)
    else if isPlain c then (literal? rest).map fun (value, left) => (c :: value, left)
    else none

/-- Reads the end of a string over several lines, from the text behind three of its quotes.

Up to two more quotes may follow, in which case the first ones belong to the string. -/
def closingQuotes (quote : Char) : List Char → List Char × List Char
  | first :: second :: rest =>
    if first = quote then
      if second = quote then ([quote, quote], rest) else ([quote], second :: rest)
    else ([], first :: second :: rest)
  | [first] => if first = quote then ([quote], []) else ([], [first])
  | [] => ([], [])

/-- Where a line-ending backslash leads, from the text behind it: past all blanks that follow. -/
def continued? (text : List Char) : Option (List Char) :=
  (lineBreak? (skipSpaces text)).map skipBlankLines

/-- Skipping blank lines leaves no more text than there was. -/
theorem length_skipBlankLines_le (text : List Char) :
    (skipBlankLines text).length ≤ text.length := by
  -- Each step gives up at least one character, or ends.
  fun_induction skipBlankLines text <;> simp_all <;> omega

/-- A line break takes at least one character. -/
theorem length_lt_of_lineBreak? {text rest : List Char} (found : lineBreak? text = some rest) :
    rest.length < text.length := by
  -- Both kinds of line break are given up in full.
  unfold lineBreak? at found
  split at found
  · obtain rfl := Option.some.inj found
    exact Nat.lt_succ_self _
  · obtain rfl := Option.some.inj found
    simp only [List.length_cons]
    omega
  · exact absurd found (by simp)

/-- A line-ending backslash leads to less text than there was. -/
theorem length_lt_of_continued? {text rest : List Char} (found : continued? text = some rest) :
    rest.length < text.length := by
  -- At least the line break is skipped.
  obtain ⟨after, broken, same⟩ := Option.map_eq_some_iff.1 found
  have shorter := length_lt_of_lineBreak? broken
  have skipped := length_skipBlankLines_le after
  have spaces : (skipSpaces text).length ≤ text.length :=
    (List.dropWhile_sublist isSpace).length_le
  rw [← same]
  omega

/-- Reads a string over several lines up to its closing double quotes. -/
def multiBasic? : List Char → Option (List Char × List Char)
  | [] => none
  | '"' :: '"' :: '"' :: rest => some (closingQuotes '"' rest)
  | '\r' :: '\n' :: rest =>
    (multiBasic? rest).map fun (value, left) => ('\r' :: '\n' :: value, left)
  | c :: rest =>
    if c = '\\' then
      match _next : continued? rest with
      | some after => multiBasic? after
      | none =>
        match _escaped : escape? rest with
        | some (meant, after) =>
          (multiBasic? after).map fun (value, left) => (meant :: value, left)
        | none => none
    else if isPlain c || c == '\n' then
      (multiBasic? rest).map fun (value, left) => (c :: value, left)
    else none
termination_by text => text.length
decreasing_by
  · simp only [List.length_cons]
    omega
  · have := length_lt_of_continued? _next
    simp only [List.length_cons]
    omega
  · have := length_lt_of_escape? _escaped
    simp only [List.length_cons]
    omega
  · simp

/-- Reads a string over several lines up to its closing single quotes. -/
def multiLiteral? : List Char → Option (List Char × List Char)
  | [] => none
  | '\'' :: '\'' :: '\'' :: rest => some (closingQuotes '\'' rest)
  | '\r' :: '\n' :: rest =>
    (multiLiteral? rest).map fun (value, left) => ('\r' :: '\n' :: value, left)
  | c :: rest =>
    if isPlain c || c == '\n' then
      (multiLiteral? rest).map fun (value, left) => (c :: value, left)
    else none

/-- A text without the line break that may follow the opening quotes of several lines. -/
def dropLineBreak (text : List Char) : List Char :=
  (lineBreak? text).getD text

/-- Reads a string value of any kind, from its opening quote on. -/
def string? : List Char → Option (List Char × List Char)
  | '"' :: '"' :: '"' :: rest => multiBasic? (dropLineBreak rest)
  | '\'' :: '\'' :: '\'' :: rest => multiLiteral? (dropLineBreak rest)
  | '"' :: rest => basic? rest
  | '\'' :: rest => literal? rest
  | _ => none

end Navigation.Toml
