import Navigation.Proofs.Template.Sections
import Navigation.Proofs.Text.Cut

/-! Reading a template and filling it comes to one pass over its text, from left to right. -/

namespace Navigation

namespace Template

/-- A value whose lines behind the first stand at an indent, unless they are empty. -/
def hang (indent value : List Char) : List Char :=
  match cutAt '\n' value with
  | [] => []
  | first :: rest =>
    first ++ rest.flatMap fun line => '\n' :: if line = [] then [] else indent ++ line

/-- What is written in place of a marker; the marks of a section leave nothing behind. -/
def substitute (values : Values) (indent : List Char) : Marker → List Char
  | .slot placeholder => hang indent (values.textOf placeholder)
  | .opens _ => []
  | .closes _ => []

/-- Whether text is written behind a marker: a section's text is, if the section is kept. -/
def writesBehind (values : Values) (writes : Bool) : Marker → Bool
  | .slot _ => writes
  | .opens opened => values.keeps opened
  | .closes _ => true

/-- The marker whose text stands at the front of a text. -/
def markerAt? (text : List Char) : Option Marker :=
  Marker.all.find? fun marker => marker.text.isPrefixOf text

/-- One pass over a template's text.

`before` is what was read already, and `writes` says whether what is read now is written. -/
def pass (values : Values) (before : List Char) (writes : Bool) : List Char → List Char
  | [] => []
  | c :: rest =>
    match markerAt? (c :: rest) with
    | some marker =>
      (if writes then substitute values (lineIndent before) marker else []) ++
        pass values (before ++ marker.text) (writesBehind values writes marker)
          ((c :: rest).drop marker.text.length)
    | none => (if writes then [c] else []) ++ pass values (before ++ [c]) writes rest
termination_by text => text.length
decreasing_by
  · obtain ⟨tail, text⟩ := marker.text_eq_cons
    simp only [text, List.length_drop, List.length_cons]
    omega
  · exact Nat.lt_succ_self rest.length

end Template

/-- A text opens with an empty line exactly if its first part is empty. -/
theorem opensEmptyLine_eq {text first : List Char} {more : List (List Char)}
    (cut : cutAt '\n' text = first :: more) : opensEmptyLine text = first.isEmpty := by
  -- The first part starts with the text's own first character, unless that is a line feed.
  cases text with
  | nil =>
    simp only [cutAt, List.cons.injEq] at cut
    rw [← cut.1]
    rfl
  | cons c rest =>
    rw [cutAt] at cut
    split at cut
    · next feed =>
      simp only [List.cons.injEq] at cut
      simp [opensEmptyLine, feed, ← cut.1]
    · next other =>
      split at cut <;> simp only [List.cons.injEq] at cut <;>
        simp [opensEmptyLine, other, ← cut.1]

/-- Indenting a value as it is copied indents the lines it is cut into. -/
theorem indented_eq_hang (indent value : List Char) :
    indented indent value = Template.hang indent value := by
  -- A line feed closes the first line; any other character belongs to it.
  induction value with
  | nil => rfl
  | cons c rest ih =>
    cases cut : cutAt '\n' rest with
    | nil => exact absurd cut (cutAt_ne_nil '\n' rest)
    | cons first more =>
      simp only [Template.hang, cut] at ih
      have empty := opensEmptyLine_eq cut
      by_cases feed : c = '\n'
      · -- The indent is put in if the line behind has characters.
        subst feed
        cases first with
        | nil => simp [indented, Template.hang, cutAt, cut, empty, ih]
        | cons d line => simp [indented, Template.hang, cutAt, cut, empty, ih]
      · simp [indented, Template.hang, cutAt, feed, cut, ih]

namespace Template

/-- Asking for a marker's text at the front finds the marker the reader finds there. -/
theorem markerAt?_of_opening? {text after : List Char} {marker : Marker}
    (opened : Marker.opening? text = some (marker, after)) :
    markerAt? text = some marker ∧ text.drop marker.text.length = after := by
  have text_eq : text = marker.text ++ after := Marker.eq_of_opening? opened
  refine ⟨?_, by simp [text_eq]⟩
  -- Some marker is found, and no two of them fit one text.
  cases found : markerAt? text with
  | none =>
    have absent := List.find?_eq_none.1 found marker marker.mem_all
    simp [text_eq] at absent
  | some other =>
    have fits := List.find?_some found
    obtain ⟨rest, same⟩ := List.isPrefixOf_iff_prefix.1 fits
    rw [(Marker.eq_of_text_append (same.trans text_eq)).1]

/-- Where the reader finds no marker, none of their texts stands at the front. -/
theorem markerAt?_of_opening?_eq_none {text : List Char} (absent : Marker.opening? text = none) :
    markerAt? text = none := by
  -- Where the reader finds no marker, no marker's text stands.
  refine List.find?_eq_none.2 fun marker _ => ?_
  rw [List.isPrefixOf_iff_prefix]
  exact Marker.opening?_eq_none_iff.1 absent marker

/-- What the pieces of a text contribute, when text is written at first only if `writes` says so. -/
def fill (values : Values) (writes : Bool) : List Piece → List Char
  | [] => []
  | .char c :: rest => (if writes then [c] else []) ++ fill values writes rest
  | .mark marker indent :: rest =>
    (if writes then substitute values indent marker else []) ++
      fill values (writesBehind values writes marker) rest

/-- Filling the pieces a text is cut into is one pass over the text. -/
theorem fill_cut (values : Values) {line text : List Char} :
    ∀ before writes, line = lastLine before →
      fill values writes (Piece.cut line text) = pass values before writes text := by
  -- The reader's line is all it keeps of what it read, and that is all an indent depends on.
  fun_induction Piece.cut line text with
  | case1 line => intro before writes current; simp [fill, pass]
  | case2 line c rest marker after opened ih =>
    intro before writes current
    -- The pass finds the marker that was read, and goes on behind its text.
    obtain ⟨found, dropped⟩ := markerAt?_of_opening? opened
    have behind : line ++ marker.text = lastLine (before ++ marker.text) := by
      rw [current, lastLine_append marker.newline_not_mem_text]
    have indent : line.takeWhile Piece.isIndent = lineIndent before := by
      rw [current]
      rfl
    rw [pass, found]
    simp only [fill, dropped, indent]
    rw [ih _ _ behind]
  | case3 line c rest absent ih =>
    intro before writes current
    -- The pass finds no marker here either, and copies the character.
    have behind : Piece.advance line c = lastLine (before ++ [c]) := by
      rw [current, lastLine_snoc]
    rw [pass, markerAt?_of_opening?_eq_none absent]
    simp only [fill]
    rw [ih _ _ behind]

/-- Matching the sections of a text does not change what its pieces contribute. -/
theorem render_matched (values : Values) (pieces : List Piece) :
    (∀ segments, outside pieces = .ok segments →
      segments.flatMap (Segment.render values) = fill values true pieces) ∧
    (∀ name body after, inside name pieces = .ok (body, after) →
      (if values.keeps name then body.flatMap (Item.render values) else []) ++
        after.flatMap (Segment.render values) = fill values (values.keeps name) pieces) := by
  -- Each piece adds to the front of what is written, or is left out with its section.
  apply matched_induction
  case nil => rfl
  case char =>
    intro c rest segments _ ih
    rw [flatMap_consChar fun _ => rfl, ih]
    rfl
  case slot =>
    intro placeholder indent rest segments ih
    simp [Segment.render, Item.render, indented_eq_hang, ih, fill, substitute, writesBehind]
  case opens =>
    intro name indent rest body after ih
    simp [Segment.render, ih, fill, substitute, writesBehind]
  -- Inside of a section, a piece counts if the section is kept.
  case charInside =>
    intro name c rest body after _ ih
    rw [fill, ← ih, flatMap_item_consChar fun _ => rfl]
    cases values.keeps name <;> simp
  case slotInside =>
    intro name placeholder indent rest body after ih
    rw [fill, writesBehind, ← ih]
    cases values.keeps name <;> simp [Item.render, indented_eq_hang, substitute]
  case closes =>
    intro name indent rest after ih
    simp [fill, substitute, writesBehind, ih]

/-- Filling a template writes what the pieces of its text contribute. -/
theorem render_eq_fill {source : String} {template : Template}
    (read : parse source = .ok template) (values : Values) :
    template.render values = String.ofList (fill values true (Piece.cut [] source.toList)) := by
  -- The segments come from matching these pieces, which leaves what they contribute.
  rw [render, (render_matched values _).1 _ (matched_of_parse read)]

/--
Filling a template is one pass over the text it was read from.

Values are written as they are, so a value that looks like a token stays what it is.
-/
theorem render_eq_pass {source : String} {template : Template}
    (read : parse source = .ok template) (values : Values) :
    template.render values = String.ofList (pass values [] true source.toList) := by
  -- The segments write what the pieces contribute, and the pieces are those of the whole text.
  have current : [] = lastLine [] := rfl
  rw [render_eq_fill read, fill_cut values [] true current]

/-- A value of three lines that looks like a token, between an unknown token and a section. -/
theorem render_eq_pass_of_mixed_text :
    ∃ template, parse "\t[IMPORTS_BLOCK][FOO]\n [SCAFFOLD_START]x[SCAFFOLD_END][0]" = .ok template ∧
      template.render (Values.empty.set .imports "[INNER_NAV_HOST]\n\nb") =
        "\t[INNER_NAV_HOST]\n\n\tb[FOO]\n [0]" := by
  -- The unknown token is part of a literal, and the known ones are slots and edges.
  have read : parse "\t[IMPORTS_BLOCK][FOO]\n [SCAFFOLD_START]x[SCAFFOLD_END][0]" =
      .ok ⟨[.item (.literal ['\t']), .item (.slot .imports ['\t']),
        .item (.literal "[FOO]\n ".toList), .block .scaffold [.literal ['x']],
        .item (.literal "[0]".toList)]⟩ := by
    decide +kernel
  refine ⟨_, read, ?_⟩
  rw [render_eq_pass read]
  decide +kernel

end Template

end Navigation
