import Navigation.Template.Marker

/-! Templates cut into segments, and how they are filled with values. -/

namespace Navigation

/-- Values for placeholders, and the sections to keep. -/
structure Values where
  value? : Placeholder → Option String
  keeps : Section → Bool

namespace Values

/-- No values, and no section kept. -/
def empty : Values :=
  ⟨fun _ => none, fun _ => false⟩

/-- Gives a placeholder a value in place of any it had. -/
def set (placeholder : Placeholder) (value : String) (values : Values) : Values :=
  { values with
    value? := fun other => if other = placeholder then some value else values.value? other }

/-- Keeps a section from now on. -/
def keep (kept : Section) (values : Values) : Values :=
  { values with keeps := fun other => other == kept || values.keeps other }

/-- The text put in for a placeholder, which is nothing if it has no value. -/
def textOf (values : Values) (placeholder : Placeholder) : List Char :=
  match values.value? placeholder with
  | some value => value.toList
  | none => []

end Values

/-- Whether the line a text starts with has no characters. -/
def opensEmptyLine : List Char → Bool
  | [] => true
  | c :: _ => c == '\n'

/-- A value with an indent in front of each line behind its first; empty lines stay empty. -/
def indented (indent : List Char) : List Char → List Char
  | [] => []
  | c :: rest =>
    if c = '\n' ∧ opensEmptyLine rest = false then c :: (indent ++ indented indent rest)
    else c :: indented indent rest

/-- A piece of a template that does not depend on sections. -/
inductive Item where
  /-- Text that is copied. -/
  | literal (text : List Char)
  /-- A place for a value, whose lines continue at the indent of the line it stands on. -/
  | slot (placeholder : Placeholder) (indent : List Char)
  deriving DecidableEq

/-- A piece of a template; sections hold items only, so they cannot be nested. -/
inductive Segment where
  | item (part : Item)
  | block (name : Section) (body : List Item)
  deriving DecidableEq

/-- A text cut at its known tokens. -/
structure Template where
  segments : List Segment
  deriving DecidableEq

namespace Item

/-- What an item contributes to the filled text. -/
def render (values : Values) : Item → List Char
  | .literal text => text
  | .slot placeholder indent => indented indent (values.textOf placeholder)

/-- Whether an item is a place for a given placeholder. -/
def uses (placeholder : Placeholder) : Item → Bool
  | .literal _ => false
  | .slot found _ => found == placeholder

end Item

namespace Segment

/-- What a segment contributes to the filled text. -/
def render (values : Values) : Segment → List Char
  | .item part => part.render values
  | .block name body => if values.keeps name then body.flatMap (Item.render values) else []

/-- Whether a segment has a place for a given placeholder, in a section or outside. -/
def uses (placeholder : Placeholder) : Segment → Bool
  | .item part => part.uses placeholder
  | .block _ body => body.any (Item.uses placeholder)

/-- Whether a segment is a given section. -/
def isBlock (name : Section) : Segment → Bool
  | .item _ => false
  | .block found _ => found == name

end Segment

namespace Template

/-- The template filled with values, in one pass that never looks at a value again. -/
def render (template : Template) (values : Values) : String :=
  String.ofList (template.segments.flatMap (Segment.render values))

/-- Whether a placeholder occurs in a template. -/
def uses (template : Template) (placeholder : Placeholder) : Bool :=
  template.segments.any (Segment.uses placeholder)

/-- The placeholders that occur in a template, each once. -/
def placeholders (template : Template) : List Placeholder :=
  Placeholder.all.filter template.uses

/-- Whether a section occurs in a template. -/
def hasSection (template : Template) (name : Section) : Bool :=
  template.segments.any (Segment.isBlock name)

/-- Fails with the first of the given placeholders that does not occur in a template. -/
def require (template : Template) (needed : List Placeholder) : Except TemplateError Unit :=
  match needed.find? fun placeholder => !template.uses placeholder with
  | some missing => .error (.missingPlaceholder missing)
  | none => .ok ()

end Template

end Navigation
