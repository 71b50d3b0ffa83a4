import Navigation.Proofs.Template.Report
import Navigation.Proofs.Template.Verdict

/-! Texts put behind each other by whole lines: each is read and filled as it is alone. -/

namespace Navigation

open Outcome (error? error?_eq_none_iff error?_eq_some_iff)

namespace Edge

variable {isOpen : Bool} {first : List Edge}

/-- Behind edges with nothing wrong, no section is open. -/
theorem fault?_append_of_eq_none (right : fault? isOpen first = none) (second : List Edge) :
    fault? isOpen (first ++ second) = fault? false second := by
  -- Both sides move along the first edges, which can only end where no section is open.
  fun_induction fault? isOpen first with
  | case1 => rfl
  | case2 => simp at right
  | case3 rest ih => exact ih right
  | case4 => simp at right
  | case5 => simp at right
  | case6 rest ih => exact ih right

/-- An edge that is out of place stays so, whatever comes behind it. -/
theorem fault?_append_of_eq_some {fault : TemplateError} (wrong : fault? isOpen first = some fault)
    (placed : fault ≠ .unterminatedSection .scaffold) (second : List Edge) :
    fault? isOpen (first ++ second) = some fault := by
  -- The fault is found before the first edges end, unless it is their end.
  fun_induction fault? isOpen first with
  | case1 => simp at wrong
  | case2 =>
    simp only [Option.some.injEq] at wrong
    exact absurd wrong.symm placed
  | case3 rest ih => exact ih wrong
  | case4 => exact wrong
  | case5 => exact wrong
  | case6 rest ih => exact ih wrong

end Edge

namespace Template

/-- Whether text is written behind pieces, if it is written in front of them or not. -/
def writesAfter (values : Values) (writes : Bool) (pieces : List Piece) : Bool :=
  (Piece.markers pieces).foldl (writesBehind values) writes

/-- Pieces contribute what they do wherever they stand, as far as text is written there. -/
theorem fill_append (values : Values) (writes : Bool) (first second : List Piece) :
    fill values writes (first ++ second) =
      fill values writes first ++ fill values (writesAfter values writes first) second := by
  -- Each marker of the first pieces is passed on both sides, with what it says of writing.
  induction first generalizing writes with
  | nil => rfl
  | cons piece rest ih =>
    cases piece with
    | char c => simp [fill, ih, writesAfter]
    | mark marker indent => simp [fill, ih, writesAfter]

/-- Where the sections of pieces are closed, text is written behind them. -/
theorem writesAfter_of_closed {values : Values} {isOpen writes : Bool} {pieces : List Piece}
    (right : Edge.fault? isOpen (Piece.edges pieces) = none)
    (written : isOpen = false → writes = true) :
    writesAfter values writes pieces = true := by
  -- A section may leave out what is in it, but not what comes behind its end.
  induction pieces generalizing isOpen writes with
  | nil =>
    cases isOpen with
    | false => exact written rfl
    | true => simp [Piece.edges, Edge.fault?] at right
  | cons piece rest ih =>
    rcases piece with c | ⟨placeholder | opened | closed, indent⟩
    · exact ih right written
    · exact ih right written
    · -- A section opens where none is open, and all depends on what comes behind.
      cases isOpen with
      | false =>
        have behind : Edge.fault? true (Piece.edges rest) = none := right
        exact ih behind (by simp)
      | true => simp [Piece.edges, Marker.edge?, Edge.fault?] at right
    · -- A section closes, and text is written again.
      cases isOpen with
      | false => simp [Piece.edges, Marker.edge?, Edge.fault?] at right
      | true =>
        have behind : Edge.fault? false (Piece.edges rest) = none := right
        exact ih behind fun _ => rfl

/-- Whether a text is made of whole lines: it is empty, or ends in a line feed. -/
def WholeLines (text : String) : Prop :=
  text = "" ∨ ∃ lines, text = lines ++ "\n"

variable {first second : String}

/-- A text of whole lines is cut on its own, whatever stands behind it. -/
theorem cut_append_of_wholeLines (whole : WholeLines first) :
    Piece.cut [] (first ++ second).toList =
      Piece.cut [] first.toList ++ Piece.cut [] second.toList := by
  rcases whole with rfl | ⟨lines, rfl⟩
  · simp
  · -- Its last line feed divides the text, whether anything stands behind it or not.
    have alone := Piece.cut_append_feed [] lines.toList []
    have both := Piece.cut_append_feed [] lines.toList second.toList
    rw [show lastLine [] = [] from rfl] at alone both
    rw [Piece.cut_nil] at alone
    simp [alone, both]

/-- Behind whole lines, the edges of a text are what they are alone. -/
theorem edges_append_of_wholeLines (whole : WholeLines first) :
    Edge.all (first ++ second).toList = Edge.all first.toList ++ Edge.all second.toList := by
  -- The pieces are those of the parts, and edges are found among pieces.
  rw [← Piece.edges_cut [], cut_append_of_wholeLines whole, Piece.edges_append, Piece.edges_cut,
    Piece.edges_cut]

/-- Behind a template of whole lines, a text is wrong exactly if it is wrong alone. -/
theorem error?_parse_append_of_ok (whole : WholeLines first) {one : Template}
    (read : parse first = .ok one) :
    error? (parse (first ++ second)) = error? (parse second) := by
  -- The edges of the first text are in pairs, so those of the second start anew.
  rw [error?_parse, edges_append_of_wholeLines whole,
    Edge.fault?_append_of_eq_none (fault?_of_parse read), error?_parse]

/-- A text that is wrong before its end stays so, whatever lines are put behind it. -/
theorem parse_append_of_error (whole : WholeLines first) {fault : TemplateError}
    (failed : parse first = .error fault)
    (placed : fault ≠ .unterminatedSection .scaffold) :
    parse (first ++ second) = .error fault := by
  -- The first edge out of place stays out of place, whatever comes behind.
  rw [← error?_eq_some_iff, error?_parse] at failed ⊢
  rw [edges_append_of_wholeLines whole, Edge.fault?_append_of_eq_some failed placed]

/-- Templates put behind each other by whole lines are filled one after the other. -/
theorem render_append (whole : WholeLines first) {one two both : Template}
    (readFirst : parse first = .ok one) (readSecond : parse second = .ok two)
    (read : parse (first ++ second) = .ok both) (values : Values) :
    both.render values = one.render values ++ two.render values := by
  -- No section is open behind the first text, so text is written there.
  have right : Edge.fault? false (Piece.edges (Piece.cut [] first.toList)) = none := by
    rw [Piece.edges_cut, fault?_of_parse readFirst]
  have written : writesAfter values true (Piece.cut [] first.toList) = true :=
    writesAfter_of_closed right fun _ => rfl
  rw [render_eq_fill read, render_eq_fill readFirst, render_eq_fill readSecond,
    cut_append_of_wholeLines whole, fill_append, written, String.ofList_append]

/-- Templates put behind each other by whole lines use what either of them uses. -/
theorem uses_append (whole : WholeLines first) {one two both : Template}
    (readFirst : parse first = .ok one) (readSecond : parse second = .ok two)
    (read : parse (first ++ second) = .ok both) {placeholder : Placeholder} :
    both.uses placeholder = true ↔
      one.uses placeholder = true ∨ two.uses placeholder = true := by
  -- What is used are the markers among the pieces, and the pieces are those of either text.
  rw [uses_iff_mem_markers read, uses_iff_mem_markers readFirst, uses_iff_mem_markers readSecond,
    cut_append_of_wholeLines whole, Piece.markers_append, List.mem_append]

/--
Templates can be put behind each other by whole lines.

Neither tokens nor sections nor indents reach across the line feed, so the second template is read
and filled as it is alone, and what is wrong with either text is what is wrong with both.
-/
theorem parse_append_of_wholeLines (whole : WholeLines first) :
    (∀ one two, parse first = .ok one → parse second = .ok two →
      ∃ both, parse (first ++ second) = .ok both ∧
        (∀ placeholder, placeholder ∈ both.placeholders ↔
          placeholder ∈ one.placeholders ∨ placeholder ∈ two.placeholders) ∧
        ∀ values, both.render values = one.render values ++ two.render values) ∧
    (∀ one fault, parse first = .ok one → parse second = .error fault →
      parse (first ++ second) = .error fault) ∧
    ∀ fault name, fault = .nestedSection name ∨ fault = .unexpectedSectionEnd name →
      parse first = .error fault → parse (first ++ second) = .error fault := by
  refine ⟨?accepted, ?second, ?first⟩
  case accepted =>
    intro one two readFirst readSecond
    -- Nothing is wrong with the second text, and so with both.
    have right : error? (parse (first ++ second)) = none := by
      rw [error?_parse_append_of_ok whole readFirst, error?_eq_none_iff]
      exact ⟨two, readSecond⟩
    obtain ⟨both, read⟩ := error?_eq_none_iff.1 right
    refine ⟨both, read, fun placeholder => ?_, render_append whole readFirst readSecond read⟩
    simp only [mem_placeholders_iff]
    exact uses_append whole readFirst readSecond read
  case second =>
    intro one fault readFirst failed
    rw [← error?_eq_some_iff] at failed ⊢
    rw [error?_parse_append_of_ok whole readFirst, failed]
  case first =>
    intro fault name placed failed
    refine parse_append_of_error whole failed ?_
    -- Neither of the two is found at the end of a text.
    rintro rfl
    simp at placed

/-- A line feed between two halves of a token, and section ends behind and in front of the lines. -/
theorem parse_append_of_wholeLines_half_tokens :
    let first := " [IMPORTS_BLOCK][SCAFFOLD_\n"
    let second := "START]\n\t[INNER_NAV_HOST]"
    (∃ one two both, parse first = .ok one ∧ parse second = .ok two ∧
      parse (first ++ second) = .ok both ∧
      ∀ values, both.render values = one.render values ++ two.render values) ∧
    parse (first ++ "[SCAFFOLD_END]") = .error (.unexpectedSectionEnd .scaffold) ∧
    parse ("[SCAFFOLD_END]\n" ++ first) = .error (.unexpectedSectionEnd .scaffold) := by
  intro first second
  -- Both first texts are whole lines, one of them with the token cut in two.
  have whole : WholeLines first :=
    .inr ⟨" [IMPORTS_BLOCK][SCAFFOLD_", by decide +kernel⟩
  have closed : WholeLines "[SCAFFOLD_END]\n" :=
    .inr ⟨"[SCAFFOLD_END]", by decide +kernel⟩
  have readFirst : parse first = .ok ⟨[.item (.literal [' ']), .item (.slot .imports [' ']),
      .item (.literal "[SCAFFOLD_\n".toList)]⟩ := by
    decide +kernel
  have readSecond : parse second = .ok ⟨[.item (.literal "START]\n\t".toList),
      .item (.slot .innerNavHost ['\t'])]⟩ := by
    decide +kernel
  refine ⟨?accepted, ?second, ?first⟩
  case accepted =>
    obtain ⟨both, read, -, filled⟩ := (parse_append_of_wholeLines whole).1 _ _ readFirst readSecond
    exact ⟨_, _, both, readFirst, readSecond, read, filled⟩
  case second =>
    exact (parse_append_of_wholeLines whole).2.1 _ _ readFirst (by decide +kernel)
  case first =>
    exact (parse_append_of_wholeLines closed).2.2 _ .scaffold (.inr rfl) (by decide +kernel)

end Template

end Navigation
