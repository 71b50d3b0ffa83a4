import Navigation.Template.Reader

/-! A text cut at its markers, and how the sections of the pieces are matched. -/

namespace Navigation

/-- A character of a template's text, or a marker with the indent of the line it stands on. -/
inductive Piece where
  | char (c : Char)
  | mark (marker : Marker) (indent : List Char)
  deriving DecidableEq

namespace Piece

/-- Whether a character can be part of an indent. -/
def isIndent (c : Char) : Bool :=
  c == ' ' || c == '\t'

/-- The current line once a character has been read behind it. -/
def advance (line : List Char) (c : Char) : List Char :=
  if c = '\n' then [] else line ++ [c]

/-- Cuts a text at its markers; `line` is what was read of the current line before it.

Tokens that are no markers, and brackets that are no tokens, are characters like all others. -/
def cut (line : List Char) : List Char → List Piece
  | [] => []
  | c :: rest =>
    match _opened : Marker.opening? (c :: rest) with
    | some (marker, after) =>
      .mark marker (line.takeWhile isIndent) :: cut (line ++ marker.text) after
    | none => .char c :: cut (advance line c) rest
termination_by text => text.length
decreasing_by
  · exact Marker.length_lt_of_opening? _opened
  · simp

/-- A text without characters has no pieces. -/
@[simp] theorem cut_nil (line : List Char) : cut line [] = [] := by
  rw [cut]

/-- A text is cut behind the marker that opens it. -/
theorem cut_of_opening? {line text after : List Char} {marker : Marker}
    (opened : Marker.opening? text = some (marker, after)) :
    cut line text = .mark marker (line.takeWhile isIndent) :: cut (line ++ marker.text) after := by
  -- The reader asks for a marker first.
  cases text with
  | nil => simp [Marker.opening?, Token.opening?] at opened
  | cons c rest =>
    rw [cut]
    split
    · next other found =>
      rw [opened] at found
      cases found
      rfl
    · next absent => simp [opened] at absent

/-- A character that opens no marker is a piece of its own. -/
theorem cut_of_opening?_eq_none {line rest : List Char} {c : Char}
    (absent : Marker.opening? (c :: rest) = none) :
    cut line (c :: rest) = .char c :: cut (advance line c) rest := by
  -- It goes on by one character if there is none.
  rw [cut]
  split
  · next found => simp [absent] at found
  · rfl

end Piece

namespace Item

/-- Puts a character in front of items, as part of a literal. -/
def consChar (c : Char) : List Item → List Item
  | .literal text :: rest => .literal (c :: text) :: rest
  | items => .literal [c] :: items

end Item

namespace Segment

/-- Puts a character in front of segments, as part of a literal. -/
def consChar (c : Char) : List Segment → List Segment
  | .item (.literal text) :: rest => .item (.literal (c :: text)) :: rest
  | segments => .item (.literal [c]) :: segments

end Segment

namespace Template

mutual

/-- Matches the sections of a text that starts outside of all sections. -/
def outside : List Piece → Except TemplateError (List Segment)
  | [] => .ok []
  | .char c :: rest => (outside rest).map (Segment.consChar c)
  | .mark (.slot placeholder) indent :: rest =>
    (outside rest).map (.item (.slot placeholder indent) :: ·)
  | .mark (.opens name) _ :: rest =>
    (inside name rest).map fun (body, after) => .block name body :: after
  | .mark (.closes name) _ :: _ => .error (.unexpectedSectionEnd name)

/-- Reads the rest of an open section, and gives it with the segments behind its end. -/
def inside (name : Section) : List Piece → Except TemplateError (List Item × List Segment)
  | [] => .error (.unterminatedSection name)
  | .char c :: rest => (inside name rest).map fun (body, after) => (Item.consChar c body, after)
  | .mark (.slot placeholder) indent :: rest =>
    (inside name rest).map fun (body, after) => (.slot placeholder indent :: body, after)
  | .mark (.opens other) _ :: _ => .error (.nestedSection other)
  | .mark (.closes other) _ :: rest =>
    if other = name then (outside rest).map fun after => ([], after)
    else .error (.unexpectedSectionEnd other)

end

/-- Reading one more character makes the current line what the cutting keeps as such. -/
theorem lastLine_snoc (before : List Char) (c : Char) :
    lastLine (before ++ [c]) = Piece.advance (lastLine before) c := by
  -- The line is cut at the last line feed, which may be the new character itself.
  by_cases feed : c = '\n' <;> simp [lastLine, Piece.advance, feed]

/-- A text on one line prolongs the current line. -/
theorem lastLine_append {before text : List Char} (oneLine : '\n' ∉ text) :
    lastLine (before ++ text) = lastLine before ++ text := by
  -- Seen from the end, the whole text stands before the last line feed.
  have whole : ∀ c ∈ text.reverse, (c != '\n') = true := by
    intro c member
    have other : c ≠ '\n' := fun same => oneLine (by simpa [same] using member)
    simpa using other
  simp [lastLine, List.takeWhile_append_of_pos whole]

end Template

end Navigation
