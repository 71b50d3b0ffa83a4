import Navigation.Token

/-! The tokens a template knows: its placeholders, and the marks of its optional sections. -/

namespace Navigation

/-- A point of a template where a value is put in. -/
inductive Placeholder where
  | animationDefaultParams
  | animationParamsToInner1
  | animationParamsToInner2
  | defaultNavController
  | experimentalApi
  | imports
  | innerNavHost
  | navGraphsDeclaration
  deriving DecidableEq

namespace Placeholder

/-- Every placeholder, in the order they are listed in. -/
def all : List Placeholder :=
  [.animationDefaultParams, .animationParamsToInner1, .animationParamsToInner2,
    .defaultNavController, .experimentalApi, .imports, .innerNavHost, .navGraphsDeclaration]

/-- The name a placeholder has in templates. -/
def name : Placeholder → String
  | .animationDefaultParams => "ANIMATION_DEFAULT_PARAMS"
  | .animationParamsToInner1 => "ANIMATION_PARAMS_TO_INNER_1"
  | .animationParamsToInner2 => "ANIMATION_PARAMS_TO_INNER_2"
  | .defaultNavController => "DEFAULT_NAV_CONTROLLER"
  | .experimentalApi => "EXPERIMENTAL_API"
  | .imports => "IMPORTS_BLOCK"
  | .innerNavHost => "INNER_NAV_HOST"
  | .navGraphsDeclaration => "NAV_GRAPHS_DECLARATION"

/-- The placeholder with a name. -/
def ofName? (name : String) : Option Placeholder :=
  all.find? (·.name == name)

/-- The bracketed form a placeholder has in templates. -/
def token (placeholder : Placeholder) : String :=
  Token.write placeholder.name

end Placeholder

/-- A part of a template that is either kept whole or left out. -/
inductive Section where
  | scaffold
  deriving DecidableEq

namespace Section

/-- Every section. -/
def all : List Section :=
  [.scaffold]

/-- The name a section has in messages. -/
def name : Section → String
  | .scaffold => "scaffold"

/-- The name of the token that opens a section. -/
def startName : Section → String
  | .scaffold => "SCAFFOLD_START"

/-- The name of the token that closes a section. -/
def endName : Section → String
  | .scaffold => "SCAFFOLD_END"

end Section

/-- What a known token of a template stands for. -/
inductive Marker where
  | slot (placeholder : Placeholder)
  | opens (opened : Section)
  | closes (closed : Section)
  deriving DecidableEq

namespace Marker

/-- The name of a marker's token. -/
def name : Marker → String
  | .slot placeholder => placeholder.name
  | .opens opened => opened.startName
  | .closes closed => closed.endName

/-- Every marker. -/
def all : List Marker :=
  Placeholder.all.map .slot ++ Section.all.flatMap fun part => [.opens part, .closes part]

/-- The marker whose token has a name. -/
def ofName? (name : String) : Option Marker :=
  all.find? (·.name == name)

/-- A marker as it is written in templates. -/
def text (marker : Marker) : List Char :=
  Token.bracket marker.name.toList

/-- Reads a marker at the very start of a text, and gives it with the text after it. -/
def opening? (text : List Char) : Option (Marker × List Char) :=
  match Token.opening? text with
  | some (name, after) => (ofName? (String.ofList name)).map fun marker => (marker, after)
  | none => none

/-- A marker found by its name has that name. -/
theorem name_of_ofName? {name : String} {marker : Marker} (known : ofName? name = some marker) :
    marker.name = name := by
  -- The look-up compares names and nothing else.
  simpa using List.find?_some known

/-- A text that opens with a marker is the marker's own text, followed by the rest. -/
theorem eq_of_opening? {text after : List Char} {marker : Marker}
    (opened : opening? text = some (marker, after)) : text = marker.text ++ after := by
  -- The token's name is the marker's name, so both have the same bracketed form.
  unfold opening? at opened
  split at opened
  · next token =>
    obtain ⟨found, known, same⟩ := Option.map_eq_some_iff.1 opened
    simp only [Prod.mk.injEq] at same
    obtain ⟨rfl, rfl⟩ := same
    rw [Token.eq_of_opening? token, Marker.text, name_of_ofName? known, String.toList_ofList]
  · simp at opened

/-- Reading a marker leaves less text than there was. -/
theorem length_lt_of_opening? {text after : List Char} {marker : Marker}
    (opened : opening? text = some (marker, after)) : after.length < text.length := by
  -- The marker's brackets alone take two characters.
  rw [eq_of_opening? opened]
  simp [Marker.text, Token.bracket]
  omega

end Marker

/-- Why a text is no template, or not one that can be used. -/
inductive TemplateError where
  | missingPlaceholder (placeholder : Placeholder)
  | nestedSection (opened : Section)
  | unexpectedSectionEnd (closed : Section)
  | unterminatedSection (opened : Section)
  deriving DecidableEq

/-- The sentence a template's fault is reported by. -/
def TemplateError.message : TemplateError → String
  | .missingPlaceholder placeholder =>
    "template is missing required placeholder " ++ placeholder.token
  | .nestedSection opened => opened.name ++ " section opened inside another section"
  | .unexpectedSectionEnd closed => closed.name ++ " section closed without being opened"
  | .unterminatedSection opened => opened.name ++ " section is never closed"

end Navigation
