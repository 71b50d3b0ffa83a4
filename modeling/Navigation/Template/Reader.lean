import Navigation.Template.Basic

/-! How a template is read: from one token to the next, with text to copy and sections kept open. -/

namespace Navigation

namespace Template

/-- What a text holds behind its last line feed. -/
def lastLine (text : List Char) : List Char :=
  (text.reverse.takeWhile (· != '\n')).reverse

/-- The longest run of spaces and tabs at the front of the line a text ends in. -/
def lineIndent (text : List Char) : List Char :=
  (lastLine text).takeWhile fun c => c == ' ' || c == '\t'

end Template

/-- How far a template has been read. -/
structure Reading where
  /-- The text that was read. -/
  before : List Char
  /-- Text that is to be copied, but belongs to no segment yet. -/
  literal : List Char
  /-- The sections that are open, the innermost one first, each with what it holds so far. -/
  stack : List (Section × List Item)
  /-- The segments in front of the open sections. -/
  segments : List Segment

namespace Reading

/-- Nothing has been read. -/
def start : Reading :=
  ⟨[], [], [], []⟩

/-- Reads text that is to be copied. -/
def copy (text : List Char) (reading : Reading) : Reading :=
  { reading with before := reading.before ++ text, literal := reading.literal ++ text }

/-- Reads text that leaves nothing behind. -/
def skip (text : List Char) (reading : Reading) : Reading :=
  { reading with before := reading.before ++ text }

/-- Puts an item into the innermost open section, or outside if none is open. -/
def put (item : Item) (reading : Reading) : Reading :=
  match reading.stack with
  | [] => { reading with segments := reading.segments ++ [.item item] }
  | (name, body) :: outer => { reading with stack := (name, body ++ [item]) :: outer }

/-- Makes an item of the text that is to be copied, if there is any. -/
def flush (reading : Reading) : Reading :=
  if reading.literal = [] then reading
  else { reading with literal := [] }.put (.literal reading.literal)

/-- Takes the marker that stands behind what was read; its text is not read yet. -/
def take (marker : Marker) (reading : Reading) : Except TemplateError Reading :=
  match marker with
  | .slot placeholder =>
    .ok (reading.put (.slot placeholder (Template.lineIndent reading.before)))
  | .opens name =>
    match reading.stack with
    | [] => .ok { reading with stack := [(name, [])] }
    | _ :: _ => .error (.nestedSection name)
  | .closes name =>
    match reading.stack with
    | [] => .error (.unexpectedSectionEnd name)
    | (opened, body) :: outer =>
      if opened = name then
        .ok { reading with stack := outer, segments := reading.segments ++ [.block name body] }
      else .error (.unexpectedSectionEnd name)

/-- Ends the reading, which must not be done inside of a section. -/
def finish (reading : Reading) : Except TemplateError (List Segment) :=
  match reading.stack with
  | [] => .ok reading.flush.segments
  | (name, _) :: _ => .error (.unterminatedSection name)

/-- Reads the rest of a text: up to its first token, then on behind that.

A token that is no marker is copied whole, so the search goes on behind its closing bracket. -/
def run (reading : Reading) (text : List Char) : Except TemplateError (List Segment) :=
  match _located : Token.find? text with
  | none => (reading.copy text).finish
  | some found =>
    match Marker.ofName? (String.ofList found.name) with
    | none => run (reading.copy found.upTo) found.after
    | some marker => do
      let taken ← (reading.copy found.before).flush.take marker
      run (taken.skip (Token.bracket found.name)) found.after
termination_by text.length
decreasing_by
  all_goals exact Token.Occurrence.length_after_lt (Token.text_of_find? _located)

end Reading

namespace Template

/-- Reads a template; it fails at the first mark of a section that is out of place. -/
def parse (source : String) : Except TemplateError Template :=
  (Reading.start.run source.toList).map Template.mk

end Template

end Navigation
