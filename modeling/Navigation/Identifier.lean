/-! Identifiers derived from routes: the letters of a route, capitalised behind every gap. -/

namespace Navigation.Identifier

/-- The one-character uppercase of a character wherever that is an ASCII letter.

Besides the small ASCII letters these are the dotless i and the long s. Every other character is
left alone, because neither it nor its uppercase can stay in an identifier. -/
def upper (c : Char) : Char :=
  if c = '\u0131' then 'I' else if c = '\u017f' then 'S' else c.toUpper

/-- Keeps the ASCII letters of a text.

`gap` says that the character just before was dropped, in which case the next one is put into
uppercase before it is looked at. -/
def letters (upper : Char → Char) (gap : Bool) : List Char → List Char
  | [] => []
  | c :: rest =>
    let letter := if gap then upper c else c
    if letter.isAlpha then letter :: letters upper false rest else letters upper true rest

/-- The uppercase of a character where that is a single character, and else the character. -/
def single (uppercase : Char → List Char) (c : Char) : Char :=
  match uppercase c with
  | [one] => one
  | _ => c

/-- The identifier of a route, with the uppercase of each character taken from a table. -/
def ofRouteBy (uppercase : Char → List Char) (route : String) : String :=
  String.ofList (letters (single uppercase) false route.toList)

/-- The table that has the uppercase of those characters for which it matters. -/
def table (c : Char) : List Char :=
  [upper c]

/-- The identifier of the graph at a route; it is empty when the route has nothing to offer. -/
def ofRoute (route : String) : String :=
  ofRouteBy table route

end Navigation.Identifier
