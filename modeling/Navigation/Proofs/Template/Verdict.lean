import Navigation.Proofs.Template.Places

/-! Which texts are templates: those whose sections are opened and closed in turn. -/

namespace Navigation

open Outcome (error? error?_map error?_eq_none_iff error?_eq_some_iff)

/-- An edge of a section, as it is seen in a text. -/
inductive Edge where
  | start
  | stop
  deriving DecidableEq

namespace Edge

/-- The text by which an edge is known. -/
def text : Edge → List Char
  | .start => "[SCAFFOLD_START]".toList
  | .stop => "[SCAFFOLD_END]".toList

/-- The edge whose text stands at the front of a text. -/
def at? (text : List Char) : Option Edge :=
  [start, stop].find? fun edge => edge.text.isPrefixOf text

/-- The edges in a text, from left to right, whatever else stands around them. -/
def all (text : List Char) : List Edge :=
  text.tails.filterMap at?

/-- Sections that are opened and closed in turn. -/
def pairs (count : Nat) : List Edge :=
  (List.replicate count [start, stop]).flatten

/-- The first edge that is out of place, and what is wrong there; sections are paired before it. -/
inductive Offence : List Edge → TemplateError → Prop where
  /-- A section is opened where one is open. -/
  | nested (paired : Nat) (rest : List Edge) :
      Offence (pairs paired ++ start :: start :: rest) (.nestedSection .scaffold)
  /-- A section is closed where none is open. -/
  | unexpected (paired : Nat) (rest : List Edge) :
      Offence (pairs paired ++ stop :: rest) (.unexpectedSectionEnd .scaffold)
  /-- The text ends where a section is open. -/
  | unterminated (paired : Nat) :
      Offence (pairs paired ++ [start]) (.unterminatedSection .scaffold)

/-- What is wrong with edges, if a section is open in front of them or not. -/
def fault? : Bool → List Edge → Option TemplateError
  | false, [] => none
  | true, [] => some (.unterminatedSection .scaffold)
  | false, .start :: rest => fault? true rest
  | true, .start :: _ => some (.nestedSection .scaffold)
  | false, .stop :: _ => some (.unexpectedSectionEnd .scaffold)
  | true, .stop :: rest => fault? false rest

/-- Pairs in front change nothing about what is wrong. -/
theorem fault?_pairs_append (count : Nat) (rest : List Edge) :
    fault? false (pairs count ++ rest) = fault? false rest := by
  -- A pair leaves no section open.
  induction count with
  | zero => rfl
  | succ count ih => exact ih

/-- An offence is what is wrong. -/
theorem Offence.fault?_eq {edges : List Edge} {fault : TemplateError}
    (offence : Offence edges fault) : fault? false edges = some fault := by
  -- Each kind of offence stands behind pairs.
  cases offence <;> rw [fault?_pairs_append] <;> rfl

/-- Edges are paired throughout, unless there is an offence. -/
theorem paired_or_offence :
    (edges : List Edge) → (∃ count, edges = pairs count) ∨ ∃ fault, Offence edges fault
  | [] => .inl ⟨0, rfl⟩
  | .stop :: rest => .inr ⟨_, .unexpected 0 rest⟩
  | [.start] => .inr ⟨_, .unterminated 0⟩
  | .start :: .start :: rest => .inr ⟨_, .nested 0 rest⟩
  | .start :: .stop :: rest => by
    -- One more pair stands in front of whatever there is behind.
    rcases paired_or_offence rest with ⟨count, rfl⟩ | ⟨fault, offence⟩
    · exact .inl ⟨count + 1, rfl⟩
    · refine .inr ⟨fault, ?_⟩
      cases offence with
      | nested paired rest => exact .nested (paired + 1) rest
      | unexpected paired rest => exact .unexpected (paired + 1) rest
      | unterminated paired => exact .unterminated (paired + 1)

/-- Nothing is wrong with edges exactly if they are paired. -/
theorem fault?_eq_none_iff {edges : List Edge} :
    fault? false edges = none ↔ ∃ count, edges = pairs count := by
  constructor
  · intro right
    rcases paired_or_offence edges with paired | ⟨fault, offence⟩
    · exact paired
    · simp [offence.fault?_eq] at right
  · -- Nothing stands behind the pairs, and nothing is open there.
    rintro ⟨count, rfl⟩
    simpa [fault?] using fault?_pairs_append count []

/-- Something is wrong with edges exactly if it is their first offence. -/
theorem fault?_eq_some_iff {edges : List Edge} {fault : TemplateError} :
    fault? false edges = some fault ↔ Offence edges fault := by
  refine ⟨fun wrong => ?_, Offence.fault?_eq⟩
  rcases paired_or_offence edges with paired | ⟨other, offence⟩
  · simp [fault?_eq_none_iff.2 paired] at wrong
  · -- There is only one fault to be found.
    rw [offence.fault?_eq, Option.some.injEq] at wrong
    exact wrong ▸ offence

end Edge

namespace Marker

/-- The edge that a marker is, if it is one. -/
def edge? : Marker → Option Edge
  | .slot _ => none
  | .opens _ => some .start
  | .closes _ => some .stop

/-- Edges have the texts of the markers that they are. -/
theorem text_of_edge? {marker : Marker} {edge : Edge} (named : marker.edge? = some edge) :
    edge.text = marker.text := by
  -- There are ten markers to look at.
  have known : ∀ marker ∈ all, ∀ edge ∈ marker.edge?, edge.text = marker.text := by
    decide +kernel
  exact known marker (mem_all marker) edge named

/-- Each edge is some marker. -/
theorem exists_edge? : (edge : Edge) → ∃ marker : Marker, marker.edge? = some edge
  | .start => ⟨.opens .scaffold, rfl⟩
  | .stop => ⟨.closes .scaffold, rfl⟩

end Marker

namespace Edge

/-- The edge at the front of a text is the marker that is read there, if that is an edge. -/
theorem at?_eq (text : List Char) :
    at? text = (Marker.opening? text).bind fun found => found.1.edge? := by
  -- Whatever one side finds at the front, the other side finds there.
  cases found : at? text with
  | some edge =>
    -- The text of an edge at the front is read as its marker.
    obtain ⟨marker, named⟩ := Marker.exists_edge? edge
    have front := List.find?_some found
    rw [List.isPrefixOf_iff_prefix, Marker.text_of_edge? named] at front
    obtain ⟨after, rfl⟩ := front
    simp [Marker.opening?_eq_some_iff.2 (Eq.refl (marker.text ++ after)), named]
  | none =>
    -- A marker at the front that is an edge would have been found.
    cases opened : Marker.opening? text with
    | none => rfl
    | some read =>
      obtain ⟨marker, after⟩ := read
      cases named : marker.edge? with
      | none => simp [named]
      | some edge =>
        have absent := List.find?_eq_none.1 found edge (by cases edge <;> simp)
        rw [List.isPrefixOf_iff_prefix, Marker.text_of_edge? named] at absent
        exact absurd ⟨after, (Marker.eq_of_opening? opened).symm⟩ absent

/-- The edges of a text are the one at its front, if there is one there, and those behind. -/
theorem all_cons (c : Char) (rest : List Char) :
    all (c :: rest) = (at? (c :: rest)).toList ++ all rest := by
  -- The whole text is the first of its ends.
  simp only [all, List.tails, List.filterMap_cons]
  cases at? (c :: rest) <;> rfl

/-- Text without an opening bracket has no part in any edge. -/
theorem all_append_of_not_mem {text : List Char} (absent : '[' ∉ text) (rest : List Char) :
    all (text ++ rest) = all rest := by
  -- It is passed over one character after the other.
  induction text with
  | nil => rfl
  | cons c text ih =>
    obtain ⟨here, behind⟩ := not_or.1 (mt List.mem_cons.2 absent)
    -- Only a bracket opens a marker, and so an edge.
    have unread : Marker.opening? (c :: (text ++ rest)) = none := by
      simp [Marker.opening?, Token.opening?_of_ne (Ne.symm here)]
    rw [List.cons_append, all_cons, at?_eq, unread, ih behind]
    rfl

end Edge

namespace Piece

/-- The edges among pieces, in their order. -/
def edges (pieces : List Piece) : List Edge :=
  (markers pieces).filterMap Marker.edge?

@[simp] theorem edges_append (first second : List Piece) :
    edges (first ++ second) = edges first ++ edges second := by
  simp [edges]

/-- The edges that a text is cut at are the edges that are seen in it. -/
theorem edges_cut (line text : List Char) : edges (cut line text) = Edge.all text := by
  -- The reader jumps over each marker, so there must be nothing to see within one.
  fun_induction cut line text with
  | case1 line => rfl
  | case2 line c rest marker after opened ih =>
    -- Behind its bracket a marker has no other, and an edge would need one.
    obtain ⟨tail, starts⟩ := marker.text_eq_cons
    have absent : '[' ∉ tail := by simpa [starts] using marker.bracket_not_mem_tail_text
    have split : c :: rest = '[' :: (tail ++ after) := by
      rw [Marker.eq_of_opening? opened, starts, List.cons_append]
    have behind : Edge.all (c :: rest) = marker.edge?.toList ++ Edge.all after := by
      rw [Edge.all_cons, Edge.at?_eq, opened, (List.cons.inj split).2,
        Edge.all_append_of_not_mem absent]
      rfl
    rw [behind, ← ih, edges, markers_mark, List.filterMap_cons]
    cases marker.edge? <;> rfl
  | case3 line c rest absent ih =>
    rw [Edge.all_cons, Edge.at?_eq, absent, ← ih]
    rfl

/-- An edge is cut out of a text exactly if its own text stands somewhere in it. -/
theorem mem_edges_cut_iff {line text : List Char} {edge : Edge} :
    edge ∈ edges (cut line text) ↔ edge.text <:+: text := by
  -- An edge is cut out as the marker that it is.
  rw [edges, List.mem_filterMap]
  constructor
  · rintro ⟨marker, member, named⟩
    rw [Marker.text_of_edge? named]
    exact mem_markers_cut_iff.1 member
  · intro inside
    obtain ⟨marker, named⟩ := Marker.exists_edge? edge
    rw [Marker.text_of_edge? named] at inside
    exact ⟨marker, mem_markers_cut_iff.2 inside, named⟩

end Piece

namespace Template

/-- Matching the sections of a text fails as its edges say, inside of a section and outside. -/
theorem error?_matched (pieces : List Piece) :
    error? (outside pieces) = Edge.fault? false (Piece.edges pieces) ∧
      ∀ name, error? (inside name pieces) = Edge.fault? true (Piece.edges pieces) := by
  -- An edge is either in its place, and the other state goes on from it, or it is the first fault.
  induction pieces with
  | nil => exact ⟨rfl, fun name => by cases name; rfl⟩
  | cons piece rest ih =>
    obtain ⟨ihOutside, ihInside⟩ := ih
    rcases piece with c | ⟨placeholder | opened | closed, indent⟩
    · simp only [outside, inside, error?_map]
      exact ⟨ihOutside, ihInside⟩
    · simp only [outside, inside, error?_map]
      exact ⟨ihOutside, ihInside⟩
    · simp only [outside, inside, error?_map]
      refine ⟨ihInside opened, fun _ => ?_⟩
      cases opened
      rfl
    · -- There is only one section, so an end inside of a section is its own.
      cases closed
      refine ⟨rfl, fun name => ?_⟩
      cases name
      simp only [inside, if_pos, error?_map]
      exact ihOutside

/-- Reading a template fails as the edges in its text say. -/
theorem error?_parse (source : String) :
    error? (parse source) = Edge.fault? false (Edge.all source.toList) := by
  -- The error is that of matching, and matching only looks at edges.
  rw [parse_eq, error?_map, (error?_matched _).1, Piece.edges_cut]

/-- Nothing is wrong with the edges of a template. -/
theorem fault?_of_parse {source : String} {template : Template}
    (read : parse source = .ok template) :
    Edge.fault? false (Edge.all source.toList) = none := by
  -- A template is read exactly if there is no error.
  rw [← error?_parse, error?_eq_none_iff]
  exact ⟨template, read⟩

/--
A text is a template exactly if the edges of its sections come in pairs.

If they do not, reading fails with the first edge that is out of place. No other text matters to
that, neither placeholders nor unknown tokens nor brackets of any kind.
-/
theorem verdict_of_edges (source : String) :
    ((∃ template, parse source = .ok template) ↔
        ∃ count, Edge.all source.toList = Edge.pairs count) ∧
      (∀ fault, parse source = .error fault ↔ Edge.Offence (Edge.all source.toList) fault) ∧
      ∀ other : String, Edge.all other.toList = Edge.all source.toList →
        error? (parse other) = error? (parse source) := by
  -- The outcome is what is wrong with the edges, and those are read off the text.
  refine ⟨?accepted, ?rejected, ?irrelevant⟩
  case accepted =>
    rw [← Edge.fault?_eq_none_iff, ← error?_parse, error?_eq_none_iff]
  case rejected =>
    intro fault
    rw [← Edge.fault?_eq_some_iff, ← error?_parse, error?_eq_some_iff]
  case irrelevant =>
    intro other same
    rw [error?_parse, error?_parse, same]

/-- Both edges are seen between other brackets, and a third one would have to be closed. -/
example : Edge.all "[[SCAFFOLD_START]][FOO[SCAFFOLD_END]é[SCAFFOLD_END".toList =
    [.start, .stop] := by
  decide +kernel

end Template

end Navigation
