import Navigation.Toml.Scalar
import Navigation.Toml.Table

/-! How a TOML document is read: keys, values, and the lines they stand on. -/

namespace Navigation.Toml

/-- Whether a character can be part of a key without quotes. -/
def isBareKeyChar (c : Char) : Bool :=
  c.isAlphanum || c == '_' || c == '-'

/-- Reads one key, quoted or bare. -/
def key? (text : List Char) : Option (String × List Char) :=
  match text with
  | '"' :: rest => (basic? rest).map fun (key, left) => (String.ofList key, left)
  | '\'' :: rest => (literal? rest).map fun (key, left) => (String.ofList key, left)
  | text =>
    match text.takeWhile isBareKeyChar with
    | [] => none
    | key => some (String.ofList key, text.dropWhile isBareKeyChar)

/-- Reads keys with dots between them, and the blanks behind them.

Every key takes a character of the text, so a budget of its length is never used up. -/
def keys? : Nat → List Char → Option (List String × List Char)
  | 0, _ => none
  | budget + 1, text => do
    let (key, rest) ← key? text
    match skipSpaces rest with
    | '.' :: rest => do
      let (more, rest) ← keys? budget (skipSpaces rest)
      return (key :: more, rest)
    | rest => return ([key], rest)

/-- Skips blanks, line breaks and comments; `inComment` says whether a comment has begun. -/
def skipTrivia? (inComment : Bool) : List Char → Option (List Char)
  | [] => some []
  | c :: rest =>
    if c = '\n' ∨ (c = '\r' ∧ rest.head? = some '\n') then skipTrivia? false rest
    else if inComment then if isPlain c then skipTrivia? true rest else none
    else if isSpace c then skipTrivia? false rest
    else if c = '#' then skipTrivia? true rest
    else some (c :: rest)

/-- The number of values that can be nested in each other. -/
def maxDepth : Nat :=
  80

mutual

/-- Reads a value; `depth` is the number of levels that may still be nested in it. -/
def value? : Nat → Nat → List Char → Option (Value × List Char)
  | 0, _, _ => none
  | budget + 1, depth, text =>
    match text, depth with
    | '[' :: _, 0 => none
    | '\x7b' :: _, 0 => none
    | '[' :: rest, depth + 1 => do
      let (items, rest) ← items? budget depth rest
      return (.array false items, rest)
    | '\x7b' :: rest, depth + 1 => do
      let (entries, rest) ← fields? budget depth [] rest
      return (.table .inline entries, rest)
    | '"' :: _, _ => (string? text).map fun (value, left) => (.text (String.ofList value), left)
    | '\'' :: _, _ => (string? text).map fun (value, left) => (.text (String.ofList value), left)
    | _, _ => scalar? text

/-- Reads the items of an array, from behind its bracket or behind a comma. -/
def items? : Nat → Nat → List Char → Option (List Value × List Char)
  | 0, _, _ => none
  | budget + 1, depth, text => do
    let text ← skipTrivia? false text
    match text with
    | ']' :: rest => return ([], rest)
    | text =>
      let (item, rest) ← value? budget depth text
      let rest ← skipTrivia? false rest
      match rest with
      | ',' :: rest => do
        let (more, rest) ← items? budget depth rest
        return (item :: more, rest)
      | ']' :: rest => return ([item], rest)
      | _ => none

/-- Reads the entries of a table between braces, from behind its brace or behind a comma. -/
def fields? : Nat → Nat → Entries → List Char → Option (Entries × List Char)
  | 0, _, _, _ => none
  | budget + 1, depth, entries, text => do
    let text ← skipTrivia? false text
    match text with
    | '\x7d' :: rest => return (entries, rest)
    | text =>
      let (keys, rest) ← keys? text.length text
      let rest ← expect? '=' rest
      let (value, rest) ← value? budget depth (skipSpaces rest)
      let entries ← entries.put? keys value .header
      let rest ← skipTrivia? false rest
      match rest with
      | ',' :: rest => fields? budget depth entries rest
      | '\x7d' :: rest => return (entries, rest)
      | _ => none

end

/-- A document that is being read: its table so far, and the path of the table that is open. -/
structure Draft where
  root : Entries
  opened : List String

namespace Draft

/-- Reads the header of a table, from behind its bracket. -/
def header? (draft : Draft) (text : List Char) : Option (Draft × List Char) := do
  let (keys, rest) ← keys? text.length (skipSpaces text)
  let rest ← expect? ']' rest
  let root ← draft.root.open? keys
  return (⟨root, keys⟩, rest)

/-- Reads the header of one more table in an array, from behind its brackets. -/
def arrayHeader? (draft : Draft) (text : List Char) : Option (Draft × List Char) := do
  let (keys, rest) ← keys? text.length (skipSpaces text)
  let rest ← expect? ']' rest
  let rest ← expect? ']' rest
  let root ← draft.root.append? keys
  return (⟨root, keys⟩, rest)

/-- Reads a key with its value into the table that is open.

A value takes two steps of the budget for every character at most. -/
def entry? (draft : Draft) (text : List Char) : Option (Draft × List Char) := do
  let (keys, rest) ← keys? text.length text
  let rest ← expect? '=' rest
  let (value, rest) ← value? (2 * rest.length + 2) maxDepth (skipSpaces rest)
  let root ← draft.root.alterAt? false (Entries.put? keys value) draft.opened .header
  return ({ draft with root := root }, rest)

/-- Reads what a line says, if it says anything. -/
def statement? (draft : Draft) (text : List Char) : Option (Draft × List Char) :=
  match skipSpaces text with
  | [] => some (draft, [])
  | '#' :: rest => some (draft, '#' :: rest)
  | '\n' :: rest => some (draft, '\n' :: rest)
  | '\r' :: rest => some (draft, '\r' :: rest)
  | '[' :: '[' :: rest => draft.arrayHeader? rest
  | '[' :: rest => draft.header? rest
  | text => draft.entry? text

/-- Reads the lines of a document; each takes a character at least of the budget. -/
def lines? : Nat → Draft → List Char → Option Draft
  | 0, _, _ => none
  | _ + 1, draft, [] => some draft
  | budget + 1, draft, text => do
    let (draft, rest) ← draft.statement? text
    let rest ← lineEnd? rest
    lines? budget draft rest

end Draft

/-- A text without the mark of its byte order, which it may start with. -/
def dropByteOrderMark : List Char → List Char
  | '\ufeff' :: rest => rest
  | text => text

/-- The entries of a document's table, unless the text is malformed. -/
def parse? (source : String) : Option Entries :=
  let text := dropByteOrderMark source.toList
  (Draft.lines? (text.length + 1) ⟨[], []⟩ text).map Draft.root

end Navigation.Toml
