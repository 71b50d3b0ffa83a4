import Navigation.Proofs.Template.Written

/-! Where the known tokens of a text stand, and where a text can be divided without dividing one. -/

namespace Navigation

namespace Marker

/-- Whether a character stands in no marker, unless at its very start. -/
def Divides (c : Char) : Prop :=
  ∀ marker : Marker, c ∉ marker.text.tail

/-- An opening bracket can only start a marker. -/
theorem divides_bracket : Divides '[' :=
  bracket_not_mem_tail_text

/-- A line feed stands in no marker at all. -/
theorem divides_feed : Divides '\n' :=
  fun marker member => marker.newline_not_mem_text (List.mem_of_mem_tail member)

/-- A line feed starts no marker. -/
theorem opening?_feed (rest : List Char) : opening? ('\n' :: rest) = none := by
  -- Every marker starts with a bracket.
  refine opening?_eq_none_iff.2 fun marker front => ?_
  obtain ⟨tail, starts⟩ := marker.text_eq_cons
  rw [starts] at front
  exact absurd (List.cons_prefix_cons.1 front).1 (by decide)

/-- What opens a text does not depend on anything behind a character that divides. -/
theorem opening?_append_of_divides {c : Char} (divides : Divides c) (d : Char)
    (text rest : List Char) :
    opening? (d :: (text ++ c :: rest)) =
      (opening? (d :: text)).map fun (marker, after) => (marker, after ++ c :: rest) := by
  -- The dividing character is not the first one, so no marker can go past it.
  cases opened : opening? (d :: text) with
  | some found =>
    -- A marker that is read without the rest is read with it.
    obtain ⟨marker, after⟩ := found
    have same := eq_of_opening? opened
    rw [Option.map_some, opening?_eq_some_iff, ← List.append_assoc, ← same, List.cons_append]
  | none =>
    -- A marker that is read with the rest ends before the dividing character.
    rw [Option.map_none, opening?_eq_none_iff]
    intro marker front
    refine opening?_eq_none_iff.1 opened marker ?_
    have absent := divides marker
    obtain ⟨tail, starts⟩ := marker.text_eq_cons
    rw [starts] at front absent ⊢
    obtain ⟨same, front⟩ := List.cons_prefix_cons.1 front
    exact List.cons_prefix_cons.2 ⟨same, prefix_of_prefix_append absent front⟩

end Marker

namespace Piece

open Template (lastLine lineIndent lastLine_append lastLine_snoc)

/-- The marker that a piece is, if it is one. -/
def marker? : Piece → Option Marker
  | .char _ => none
  | .mark marker _ => some marker

/-- The markers among pieces, in their order. -/
def markers (pieces : List Piece) : List Marker :=
  pieces.filterMap marker?

@[simp] theorem markers_nil : markers [] = [] :=
  rfl

@[simp] theorem markers_char (c : Char) (rest : List Piece) :
    markers (.char c :: rest) = markers rest :=
  rfl

@[simp] theorem markers_mark (marker : Marker) (indent : List Char) (rest : List Piece) :
    markers (.mark marker indent :: rest) = marker :: markers rest :=
  rfl

@[simp] theorem markers_append (first second : List Piece) :
    markers (first ++ second) = markers first ++ markers second :=
  List.filterMap_append

/-- Cutting starts anew behind a line feed, wherever the line began. -/
theorem cut_feed (line rest : List Char) : cut line ('\n' :: rest) = .char '\n' :: cut [] rest := by
  -- No marker opens at the line feed, and the current line behind it is empty.
  rw [cut_of_opening?_eq_none (Marker.opening?_feed rest)]
  rfl

/-- A text is cut on its own up to a character that divides. -/
theorem cut_append_of_divides {c : Char} (divides : Marker.Divides c) (rest : List Char)
    {line text : List Char} :
    ∀ before, line = lastLine before → cut line (text ++ c :: rest) =
      cut line text ++ cut (lastLine (before ++ text)) (c :: rest) := by
  -- Both texts open with the same marker, or with none, at each place in front of the character.
  fun_induction cut line text with
  | case1 line =>
    intro before current
    simp [current]
  | case2 line d text marker after opened ih =>
    intro before current
    have behind : line ++ marker.text = lastLine (before ++ marker.text) := by
      rw [current, lastLine_append marker.newline_not_mem_text]
    -- The marker ends in front of the character, so what stands behind cannot change it.
    have longer : Marker.opening? (d :: text ++ c :: rest) = some (marker, after ++ c :: rest) := by
      rw [List.cons_append, Marker.opening?_append_of_divides divides, opened]
      rfl
    rw [cut_of_opening? longer, ih _ behind, Marker.eq_of_opening? opened, List.cons_append,
      List.append_assoc]
  | case3 line d text absent ih =>
    intro before current
    have behind : advance line d = lastLine (before ++ [d]) := by
      rw [current, lastLine_snoc]
    have longer : Marker.opening? (d :: (text ++ c :: rest)) = none := by
      rw [Marker.opening?_append_of_divides divides, absent]
      rfl
    rw [List.cons_append, cut_of_opening?_eq_none longer, ih _ behind, List.cons_append,
      List.append_assoc]
    rfl

/-- A text is cut line by line. -/
theorem cut_append_feed (before text rest : List Char) :
    cut (lastLine before) (text ++ '\n' :: rest) =
      cut (lastLine before) text ++ .char '\n' :: cut [] rest := by
  -- A line feed divides any text, and the cutting starts anew behind it.
  rw [cut_append_of_divides Marker.divides_feed rest before rfl, cut_feed]

/-- A marker's text is cut out of a text wherever it stands. -/
theorem cut_append_marker (before text : List Char) (marker : Marker) (rest : List Char) :
    cut (lastLine before) (text ++ (marker.text ++ rest)) =
      cut (lastLine before) text ++ .mark marker (lineIndent (before ++ text)) ::
        cut (lastLine (before ++ text ++ marker.text)) rest := by
  obtain ⟨tail, starts⟩ := marker.text_eq_cons
  -- Its bracket divides the text, and then it is read at the front.
  have divided : cut (lastLine before) (text ++ (marker.text ++ rest)) =
      cut (lastLine before) text ++ cut (lastLine (before ++ text)) (marker.text ++ rest) := by
    rw [starts]
    exact cut_append_of_divides Marker.divides_bracket (tail ++ rest) before rfl
  rw [divided, cut_marker]

/-- A marker is cut out of a text exactly if its own text stands somewhere in it. -/
theorem mem_markers_cut_iff {line text : List Char} {marker : Marker} :
    marker ∈ markers (cut line text) ↔ marker.text <:+: text := by
  -- Each place of the text is passed over, or is the start of the marker that is read there.
  fun_induction cut line text with
  | case1 line => simp [marker.not_infix_nil]
  | case2 line c rest found after opened ih =>
    rw [markers_mark, List.mem_cons, ih, Marker.eq_of_opening? opened]
    constructor
    · rintro (rfl | behind)
      · exact (List.prefix_append _ _).isInfix
      · exact behind.trans (List.suffix_append _ _).isInfix
    · exact Marker.eq_or_infix_of_infix_append
  | case3 line c rest absent ih =>
    rw [markers_char, ih, List.infix_cons_iff]
    exact (or_iff_right (Marker.opening?_eq_none_iff.1 absent marker)).symm

end Piece

end Navigation
