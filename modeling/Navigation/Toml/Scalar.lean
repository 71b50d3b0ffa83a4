import Navigation.Toml.Text
import Navigation.Toml.Value

/-! TOML values that are written as one word: switches, numbers, and points in time. -/

namespace Navigation.Toml

/-- Whether a text is a run of digits, with single underscores between some of them. -/
def isDigits (digit : Char → Bool) : List Char → Bool
  | [] => false
  | [c] => digit c
  | c :: '_' :: rest => digit c && isDigits digit rest
  | c :: rest => digit c && isDigits digit rest

/-- A text without the sign it may start with. -/
def dropSign : List Char → List Char
  | '+' :: rest => rest
  | '-' :: rest => rest
  | text => text

/-- Whether a text is a decimal number without sign and without superfluous zeros. -/
def isDecimal : List Char → Bool
  | ['0'] => true
  | '0' :: _ => false
  | text => isDigits Char.isDigit text

/-- Whether a text is an integer: a decimal one, or one in base sixteen, eight or two. -/
def isInteger : List Char → Bool
  | '0' :: 'x' :: rest => isDigits (fun c => (hexDigit? c).isSome) rest
  | '0' :: 'o' :: rest => isDigits (fun c => '0' ≤ c && c ≤ '7') rest
  | '0' :: 'b' :: rest => isDigits (fun c => c == '0' || c == '1') rest
  | text => isDecimal (dropSign text)

/-- Whether a text is an exponent. -/
def isExponent : List Char → Bool
  | c :: rest => (c == 'e' || c == 'E') && isDigits Char.isDigit (dropSign rest)
  | [] => false

/-- Whether a character can be part of a decimal number. -/
def isDecimalChar (c : Char) : Bool :=
  c.isDigit || c == '_'

/-- Whether a text is a number with a fraction or an exponent, or one of the special numbers. -/
def isFloat (text : List Char) : Bool :=
  let body := dropSign text
  if body = "inf".toList || body = "nan".toList then true
  else
    isDecimal (body.takeWhile isDecimalChar) &&
      match body.dropWhile isDecimalChar with
      | '.' :: rest =>
        let left := rest.dropWhile isDecimalChar
        isDigits Char.isDigit (rest.takeWhile isDecimalChar) && (left.isEmpty || isExponent left)
      | rest => isExponent rest

/-- Reads a number of exactly so many decimal digits. -/
def decimal? (width : Nat) (text : List Char) : Option (Nat × List Char) :=
  let digits := text.take width
  if digits.length = width ∧ digits.all Char.isDigit then
    some (digits.foldl (fun value c => 10 * value + (c.toNat - '0'.toNat)) 0, text.drop width)
  else none

/-- The text behind a character that has to be at its start. -/
def expect? (wanted : Char) : List Char → Option (List Char)
  | c :: rest => if c = wanted then some rest else none
  | [] => none

/-- The number of days in a month. -/
def daysIn (year month : Nat) : Nat :=
  if month = 2 then
    if year % 4 = 0 ∧ (year % 100 ≠ 0 ∨ year % 400 = 0) then 29 else 28
  else if month = 4 ∨ month = 6 ∨ month = 9 ∨ month = 11 then 30
  else 31

/-- Reads a date of the calendar. -/
def date? (text : List Char) : Option (List Char) := do
  let (year, rest) ← decimal? 4 text
  let rest ← expect? '-' rest
  let (month, rest) ← decimal? 2 rest
  let rest ← expect? '-' rest
  let (day, rest) ← decimal? 2 rest
  if 1 ≤ month ∧ month ≤ 12 ∧ 1 ≤ day ∧ day ≤ daysIn year month then some rest else none

/-- Reads the fraction of a second, if there is one. -/
def fraction? : List Char → Option (List Char)
  | '.' :: c :: rest => if c.isDigit then some (rest.dropWhile Char.isDigit) else none
  | '.' :: [] => none
  | text => some text

/-- Reads a time of the day; its seconds may be left out. -/
def time? (text : List Char) : Option (List Char) := do
  let (hour, rest) ← decimal? 2 text
  let rest ← expect? ':' rest
  let (minute, rest) ← decimal? 2 rest
  if hour ≤ 23 ∧ minute ≤ 59 then
    match rest with
    | ':' :: rest =>
      let (second, rest) ← decimal? 2 rest
      if second ≤ 60 then fraction? rest else none
    | rest => some rest
  else none

/-- Whether a text is an offset from universal time, or nothing. -/
def isOffset : List Char → Bool
  | [] => true
  | ['Z'] => true
  | ['z'] => true
  | c :: rest =>
    (c == '+' || c == '-') &&
      match decimal? 2 rest with
      | some (hour, ':' :: rest) =>
        match decimal? 2 rest with
        | some (minute, []) => hour ≤ 23 && minute ≤ 59
        | _ => false
      | _ => false

/-- Whether a text is a date, a time, or both with or without an offset. -/
def isMoment (text : List Char) : Bool :=
  match date? text with
  | some [] => true
  | some (c :: rest) =>
    (c == 'T' || c == 't' || c == ' ') &&
      match time? rest with
      | some rest => isOffset rest
      | none => false
  | none => time? text == some []

/-- Whether a character can be part of a value without quotes. -/
def isWordChar (c : Char) : Bool :=
  c.isAlphanum || c == '_' || c == '+' || c == '-' || c == '.' || c == ':'

/-- The time that follows a date behind a single blank. -/
def spacedTime (text : List Char) : List Char :=
  match text with
  | ' ' :: c :: rest => if c.isDigit then ' ' :: (c :: rest).takeWhile isWordChar else []
  | _ => []

/-- Reads a value that is written as one word, or as a date and a time. -/
def scalar? (text : List Char) : Option (Value × List Char) :=
  let word := text.takeWhile isWordChar
  let rest := text.dropWhile isWordChar
  if word = "true".toList then some (.flag true, rest)
  else if word = "false".toList then some (.flag false, rest)
  else if isInteger word || isFloat word then some (.number (String.ofList word), rest)
  else
    let time := if date? word = some [] then spacedTime rest else []
    let moment := word ++ time
    if isMoment moment then some (.moment (String.ofList moment), rest.drop time.length) else none

end Navigation.Toml
