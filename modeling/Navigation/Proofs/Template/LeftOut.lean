import Navigation.Proofs.Template.Joined

/-! A section that is left out: nothing that stands in it shows in the filled text. -/

namespace Navigation

namespace Edge

/-- What ends edges with nothing wrong has nothing wrong, given whether a section is open there. -/
theorem fault?_eq_none_of_append {isOpen : Bool} {first second : List Edge}
    (right : fault? isOpen (first ++ second) = none) : ∃ state, fault? state second = none := by
  -- Moving along the first edges keeps nothing but whether a section is open.
  fun_induction fault? isOpen first with
  | case1 => exact ⟨false, right⟩
  | case2 => exact ⟨true, right⟩
  | case3 rest ih => exact ih right
  | case4 => simp [fault?] at right
  | case5 => simp [fault?] at right
  | case6 rest ih => exact ih right

/-- There is no edge between the start of a section and the first end behind it. -/
theorem eq_nil_of_matching {before body after : List Edge}
    (right : fault? false (before ++ start :: (body ++ stop :: after)) = none)
    (matching : stop ∉ body) : body = [] := by
  obtain ⟨state, right⟩ := fault?_eq_none_of_append right
  -- The section starts where none is open, and what comes next in it is its end.
  cases state with
  | true => simp [fault?] at right
  | false =>
    cases body with
    | nil => rfl
    | cons edge rest =>
      cases edge with
      | start => simp [fault?] at right
      | stop => simp at matching

end Edge

namespace Piece

open Template (lastLine)

/-- A line that ends at once is cut in the same way, whatever it began with. -/
theorem cut_of_lineEnd {text : List Char} (ends : text = [] ∨ ∃ rest, text = '\n' :: rest)
    (line : List Char) : cut line text = cut [] text := by
  -- Either there is no more text, or cutting starts anew.
  rcases ends with rfl | ⟨rest, rfl⟩
  · rw [cut_nil, cut_nil]
  · rw [cut_feed, cut_feed]

/-- A text is cut at both edges of a section, and anew behind it if its line ends there. -/
theorem cut_section (name : Section) (before body : List Char) {after : List Char}
    (ends : after = [] ∨ ∃ rest, after = '\n' :: rest) :
    ∃ line first second,
      cut [] (before ++ ((Marker.opens name).text ++
          (body ++ ((Marker.closes name).text ++ after)))) =
        cut [] before ++ .mark (.opens name) first ::
          (cut line body ++ .mark (.closes name) second :: cut [] after) := by
  -- The inner edge is found in what stands behind the outer one.
  have outer := cut_append_marker [] before (.opens name)
    (body ++ ((Marker.closes name).text ++ after))
  have inner := cut_append_marker ([] ++ before ++ (Marker.opens name).text) body (.closes name)
    after
  rw [cut_of_lineEnd ends] at inner
  rw [inner] at outer
  exact ⟨_, _, _, outer⟩

end Piece

namespace Template

/-- The start of a section is not written, and decides whether the section is. -/
theorem fill_opens (values : Values) (writes : Bool) (name : Section) (indent : List Char)
    (rest : List Piece) :
    fill values writes (.mark (.opens name) indent :: rest) =
      fill values (values.keeps name) rest := by
  -- Behind the start of a section, writing only depends on the section.
  cases writes <;> rfl

/-- The end of a section is not written, but all that comes behind it is. -/
theorem fill_closes (values : Values) (writes : Bool) (name : Section) (indent : List Char)
    (rest : List Piece) :
    fill values writes (.mark (.closes name) indent :: rest) = fill values true rest := by
  -- Behind its end, text is always written again.
  cases writes <;> rfl

/-- Where nothing is written, nothing is, up to the next edge. -/
theorem fill_of_edges_eq_nil {values : Values} {pieces : List Piece}
    (inside : Piece.edges pieces = []) : fill values false pieces = [] := by
  -- Characters and slots do not change whether text is written.
  induction pieces with
  | nil => rfl
  | cons piece rest ih =>
    rcases piece with c | ⟨placeholder | opened | closed, indent⟩
    · exact ih inside
    · exact ih inside
    · simp [Piece.edges, Marker.edge?] at inside
    · simp [Piece.edges, Marker.edge?] at inside

/--
A template is filled in front of a section that is left out, and behind it.

The indents behind the section are those of the lines there, if its last line ends with it.
-/
theorem render_of_left_out {source before body after : String} {template : Template}
    (read : parse source = .ok template)
    (split : source = before ++ "[SCAFFOLD_START]" ++ body ++ "[SCAFFOLD_END]" ++ after)
    (matching : ¬ Edge.stop.text <:+: body.toList)
    (lineEnd : after = "" ∨ ∃ rest, after = "\n" ++ rest) {values : Values}
    (leftOut : values.keeps .scaffold = false) :
    template.render values = String.ofList (fill values true (Piece.cut [] before.toList) ++
      fill values true (Piece.cut [] after.toList)) := by
  have text : source.toList = before.toList ++ ((Marker.opens .scaffold).text ++
      (body.toList ++ ((Marker.closes .scaffold).text ++ after.toList))) := by
    rw [split, show (Marker.opens .scaffold).text = "[SCAFFOLD_START]".toList by decide +kernel,
      show (Marker.closes .scaffold).text = "[SCAFFOLD_END]".toList by decide +kernel]
    simp only [String.toList_append, List.append_assoc]
  have ends : after.toList = [] ∨ ∃ rest, after.toList = '\n' :: rest := by
    rcases lineEnd with rfl | ⟨rest, rfl⟩
    · exact .inl rfl
    · exact .inr ⟨rest.toList, by simp⟩
  obtain ⟨line, first, second, pieces⟩ :=
    Piece.cut_section .scaffold before.toList body.toList ends
  rw [← text] at pieces
  -- Nothing is wrong with the edges of the text, so there is none in the section.
  have right : Edge.fault? false (Piece.edges (Piece.cut [] source.toList)) = none := by
    rw [Piece.edges_cut, fault?_of_parse read]
  have edges : Piece.edges (Piece.cut [] source.toList) =
      Piece.edges (Piece.cut [] before.toList) ++ .start ::
        (Piece.edges (Piece.cut line body.toList) ++ .stop ::
          Piece.edges (Piece.cut [] after.toList)) := by
    simp [pieces, Piece.edges, Marker.edge?]
  rw [edges] at right
  have inside := Edge.eq_nil_of_matching right (mt Piece.mem_edges_cut_iff.1 matching)
  -- So filling stops at the start of the section and goes on at its end.
  rw [render_eq_fill read, pieces, fill_append, fill_opens, leftOut, fill_append, fill_closes,
    fill_of_edges_eq_nil inside, List.nil_append]

end Template

end Navigation
