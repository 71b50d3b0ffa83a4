import Navigation.Json.Value
import Navigation.Text.Hex

/-! How a JSON text is read, to the letter: no comments, no trailing commas, nothing around it. -/

namespace Navigation.Json

/-- Whether a character may stand between the parts of a text. -/
def isSpace (c : Char) : Bool :=
  c == ' ' || c == '\n' || c == '\t' || c == '\r'

/-- A text without the blanks at its start. -/
def skipSpaces (text : List Char) : List Char :=
  text.dropWhile isSpace

/-- The number of the character that a letter behind a backslash means. -/
def escaped? : Char → Option Nat
  | '"' => some 0x22
  | '\\' => some 0x5c
  | '/' => some 0x2f
  | 'b' => some 0x08
  | 'f' => some 0x0c
  | 'n' => some 0x0a
  | 'r' => some 0x0d
  | 't' => some 0x09
  | _ => none

/-- Reads a string up to its closing quote, as the numbers of its characters.

A character may be given by the two halves of a surrogate pair, which are then two numbers. -/
def codes? : List Char → Option (List Nat × List Char)
  | [] => none
  | '"' :: rest => some ([], rest)
  | '\\' :: 'u' :: a :: b :: c :: d :: rest => do
    let code ← hexNumber? [a, b, c, d]
    let (codes, left) ← codes? rest
    return (code :: codes, left)
  | '\\' :: c :: rest => do
    let code ← escaped? c
    let (codes, left) ← codes? rest
    return (code :: codes, left)
  | c :: rest =>
    if c = '\\' ∨ c.toNat < 0x20 then none
    else do
      let (codes, left) ← codes? rest
      return (c.toNat :: codes, left)

/-- The character that two halves of a surrogate pair mean together. -/
def pair? (high low : Nat) : Option Char :=
  if 0xd800 ≤ high ∧ high < 0xdc00 ∧ 0xdc00 ≤ low ∧ low < 0xe000 then
    charOf? (0x10000 + (high - 0xd800) * 0x400 + (low - 0xdc00))
  else none

/-- The text that numbers spell, unless one of them is half of a pair without the other half. -/
def spell? : List Nat → Option (List Char)
  | [] => some []
  | [code] => (charOf? code).map fun c => [c]
  | code :: next :: rest =>
    match pair? code next with
    | some c => (spell? rest).map (c :: ·)
    | none =>
      match charOf? code with
      | some c => (spell? (next :: rest)).map (c :: ·)
      | none => none

/-- Reads a string from behind its opening quote. -/
def string? (text : List Char) : Option (Option String × List Char) :=
  (codes? text).map fun (codes, rest) => ((spell? codes).map String.ofList, rest)

/-- Reads at least one digit. -/
def digits? (text : List Char) : Option (List Char × List Char) :=
  match text.takeWhile Char.isDigit with
  | [] => none
  | digits => some (digits, text.dropWhile Char.isDigit)

/-- Reads the digits before the point; a zero is followed by no other digit. -/
def whole? : List Char → Option (List Char × List Char)
  | '0' :: rest => some (['0'], rest)
  | text => digits? text

/-- Reads the fraction of a number, if there is one. -/
def fraction? : List Char → Option (List Char × List Char)
  | '.' :: rest => (digits? rest).map fun (digits, left) => ('.' :: digits, left)
  | text => some ([], text)

/-- Reads the sign that may stand in front of an exponent. -/
def exponentSign : List Char → List Char × List Char
  | '+' :: rest => (['+'], rest)
  | '-' :: rest => (['-'], rest)
  | text => ([], text)

/-- Reads the exponent of a number, if there is one. -/
def exponent? : List Char → Option (List Char × List Char)
  | c :: rest =>
    if c = 'e' ∨ c = 'E' then
      let (sign, rest) := exponentSign rest
      (digits? rest).map fun (digits, left) => (c :: (sign ++ digits), left)
    else some ([], c :: rest)
  | [] => some ([], [])

/-- Reads a number. -/
def number? (text : List Char) : Option (Value × List Char) := do
  let (sign, rest) := match text with
    | '-' :: rest => (['-'], rest)
    | text => ([], text)
  let (whole, rest) ← whole? rest
  let (fraction, rest) ← fraction? rest
  let (exponent, rest) ← exponent? rest
  return (.number (String.ofList (sign ++ whole ++ fraction ++ exponent)), rest)

/-- Reads a value that is a word. -/
def word? (word : String) (value : Value) (text : List Char) : Option (Value × List Char) :=
  if word.toList.isPrefixOf text then some (value, text.drop word.length) else none

mutual

/-- Reads a value with the blanks before it.

Each value and each item takes a character, so a budget of twice their number is never used up. -/
def value? : Nat → List Char → Option (Value × List Char)
  | 0, _ => none
  | budget + 1, text =>
    match skipSpaces text with
    | 'n' :: rest => word? "null" .null ('n' :: rest)
    | 't' :: rest => word? "true" (.flag true) ('t' :: rest)
    | 'f' :: rest => word? "false" (.flag false) ('f' :: rest)
    | '"' :: rest => (string? rest).map fun (value, left) => (.text value, left)
    | '[' :: rest =>
      match skipSpaces rest with
      | ']' :: rest => some (.array [], rest)
      | rest => (items? budget rest).map fun (items, left) => (.array items, left)
    | '\x7b' :: rest =>
      match skipSpaces rest with
      | '\x7d' :: rest => some (.object [], rest)
      | rest => (fields? budget rest).map fun (entries, left) => (.object entries, left)
    | text => number? text

/-- Reads the items of an array that has some, up to its closing bracket. -/
def items? : Nat → List Char → Option (List Value × List Char)
  | 0, _ => none
  | budget + 1, text => do
    let (item, rest) ← value? budget text
    match skipSpaces rest with
    | ',' :: rest =>
      let (items, rest) ← items? budget rest
      return (item :: items, rest)
    | ']' :: rest => return ([item], rest)
    | _ => none

/-- Reads the entries of an object that has some, up to its closing brace. -/
def fields? : Nat → List Char → Option (List (Option String × Value) × List Char)
  | 0, _ => none
  | budget + 1, text =>
    match skipSpaces text with
    | '"' :: rest => do
      let (key, rest) ← string? rest
      match skipSpaces rest with
      | ':' :: rest =>
        let (value, rest) ← value? budget rest
        match skipSpaces rest with
        | ',' :: rest =>
          let (entries, rest) ← fields? budget rest
          return ((key, value) :: entries, rest)
        | '\x7d' :: rest => return ([(key, value)], rest)
        | _ => none
      | _ => none
    | _ => none

end

/-- The value that a text holds, unless it is malformed. -/
def parse? (source : String) : Option Value :=
  let text := source.toList
  match value? (2 * text.length + 2) text with
  | some (value, rest) => if (skipSpaces rest).isEmpty then some value else none
  | none => none

end Navigation.Json
