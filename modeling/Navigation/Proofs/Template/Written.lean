import Mathlib.Data.List.Chain
import Navigation.Proofs.Template.Pass

/-! A template holds the whole text it was read from, and is cut from it in one way only. -/

namespace Navigation

namespace Marker

/-- A marker's text opens a bracket at its front only. -/
theorem bracket_not_mem_tail_text (marker : Marker) : '[' ∉ marker.text.tail := by
  -- The few markers are looked through, as their names are all known.
  have single : ∀ marker ∈ all, '[' ∉ marker.text.tail := by decide
  exact single marker (mem_all marker)

/-- A marker's text cannot start inside a text without opening brackets. -/
theorem infix_of_infix_append {marker : Marker} {text rest : List Char} (absent : '[' ∉ text)
    (inside : marker.text <:+: text ++ rest) : marker.text <:+: rest := by
  -- At each place of the text the marker's bracket would have to stand.
  induction text with
  | nil => exact inside
  | cons c text ih =>
    obtain ⟨here, behind⟩ := not_or.1 (mt List.mem_cons.2 absent)
    rcases List.infix_cons_iff.1 inside with front | deeper
    · obtain ⟨tail, starts⟩ := marker.text_eq_cons
      rw [starts] at front
      exact absurd (List.cons_prefix_cons.1 front).1 here
    · exact ih behind deeper

/-- Markers do not overlap: a marker's text is another one's only as a whole. -/
theorem eq_or_infix_of_infix_append {marker other : Marker} {rest : List Char}
    (inside : marker.text <:+: other.text ++ rest) : marker = other ∨ marker.text <:+: rest := by
  obtain ⟨tail, starts⟩ := other.text_eq_cons
  have absent : '[' ∉ tail := by simpa [starts] using other.bracket_not_mem_tail_text
  rw [starts, List.cons_append] at inside
  rcases List.infix_cons_iff.1 inside with front | deeper
  · -- Both texts stand at the front, so both markers are read there.
    obtain ⟨after, same⟩ := front
    rw [← List.cons_append, ← starts] at same
    exact .inl (eq_of_text_append same).1
  · exact .inr (infix_of_infix_append absent deeper)

/-- A character that starts no marker can be put in front of a text without one. -/
theorem not_infix_cons {marker : Marker} {c : Char} {text rest : List Char}
    (unread : opening? (c :: (text ++ rest)) = none) (free : ¬ marker.text <:+: text) :
    ¬ marker.text <:+: c :: text := by
  intro inside
  -- The marker would stand at the front, where it is read, or further behind.
  rcases List.infix_cons_iff.1 inside with front | deeper
  · have whole : marker.text <+: c :: (text ++ rest) :=
      front.trans (List.prefix_append (c :: text) rest)
    exact opening?_eq_none_iff.1 unread marker whole
  · exact free deeper

/-- A marker has a text. -/
theorem not_infix_nil (marker : Marker) : ¬ marker.text <:+: [] := by
  -- A marker's text is not empty.
  obtain ⟨tail, starts⟩ := marker.text_eq_cons
  simp [starts]

end Marker

/-- The text a piece was cut from. -/
def Piece.write : Piece → List Char
  | .char c => [c]
  | .mark marker _ => marker.text

/-- The text of an item; a slot is written as the token of its placeholder. -/
def Item.write : Item → List Char
  | .literal text => text
  | .slot placeholder _ => (Marker.slot placeholder).text

/-- The text of a segment; a section is written between its two marks. -/
def Segment.write : Segment → List Char
  | .item part => part.write
  | .block name body =>
    (Marker.opens name).text ++ body.flatMap Item.write ++ (Marker.closes name).text

/-- The text of a template. -/
def Template.write (template : Template) : String :=
  String.ofList (template.segments.flatMap Segment.write)

/-- Whether pieces are cut where they have to be, when `before` stands in front of them.

No marker is taken for characters, and each marker has the indent of the line it stands on. -/
def Piece.Faithful (before : List Char) : List Piece → Prop
  | [] => True
  | .char c :: rest =>
    Marker.opening? (c :: rest.flatMap write) = none ∧ Faithful (before ++ [c]) rest
  | .mark marker indent :: rest =>
    indent = Template.lineIndent before ∧ Faithful (before ++ marker.text) rest

/-- The pieces of a text make up the text. -/
theorem Piece.flatMap_write_cut (line text : List Char) :
    (cut line text).flatMap write = text := by
  -- Each marker is written as the text it was found by, and each character as itself.
  fun_induction cut line text with
  | case1 line => rfl
  | case2 line c rest marker after opened ih =>
    rw [Marker.eq_of_opening? opened]
    simp [write, ih]
  | case3 line c rest absent ih => simp [write, ih]

/-- A text is cut where it has to be. -/
theorem Piece.faithful_cut {line text : List Char} :
    ∀ before, line = Template.lastLine before → Faithful before (cut line text) := by
  -- The reader's line is the last line of what it read, as far as an indent is concerned.
  fun_induction cut line text with
  | case1 line => exact fun before current => trivial
  | case2 line c rest marker after opened ih =>
    intro before current
    have behind : line ++ marker.text = Template.lastLine (before ++ marker.text) := by
      rw [current, Template.lastLine_append marker.newline_not_mem_text]
    refine ⟨?_, ih _ behind⟩
    rw [current]
    rfl
  | case3 line c rest absent ih =>
    intro before current
    have behind : advance line c = Template.lastLine (before ++ [c]) := by
      rw [current, Template.lastLine_snoc]
    exact ⟨by rwa [flatMap_write_cut], ih _ behind⟩

/-- Whether each part of a text fits in its place, behind the parts in front of it. -/
def Placed {α : Type} (write : α → List Char) (fits : List Char → α → Prop) :
    List Char → List α → Prop
  | _, [] => True
  | before, part :: rest => fits before part ∧ Placed write fits (before ++ write part) rest

/-- Where parts are placed, any one of them fits behind the text of those in front. -/
theorem Placed.fits {α : Type} {write : α → List Char} {fits : List Char → α → Prop}
    {before : List Char} {earlier later : List α} {part : α}
    (placed : Placed write fits before (earlier ++ part :: later)) :
    fits (before ++ earlier.flatMap write) part := by
  -- Each part in front moves its own text to what stands before.
  induction earlier generalizing before with
  | nil => simpa using placed.1
  | cons first earlier ih => simpa using ih placed.2

/-- Where parts are placed, each of them fits somewhere. -/
theorem Placed.exists_fits {α : Type} {write : α → List Char} {fits : List Char → α → Prop}
    {before : List Char} {parts : List α} {part : α} (placed : Placed write fits before parts)
    (member : part ∈ parts) : ∃ place, fits place part := by
  -- The part is placed behind the text of all parts before it.
  obtain ⟨earlier, later, rfl⟩ := List.append_of_mem member
  exact ⟨_, placed.fits⟩

namespace Item

/-- Whether an item is what reading makes of its text.

A literal has characters but no known token, and a slot has the indent of its line. -/
def Fits (before : List Char) : Item → Prop
  | .literal text => text ≠ [] ∧ ∀ marker : Marker, ¬ marker.text <:+: text
  | .slot _ indent => indent = Template.lineIndent before

/-- Whether an item is copied text. -/
def isLiteral : Item → Bool
  | .literal _ => true
  | .slot _ _ => false

end Item

namespace Segment

/-- Whether a segment is copied text. -/
def isLiteral : Segment → Bool
  | .item part => part.isLiteral
  | .block _ _ => false

/-- Whether a section's text has no mark of a section. -/
def Flat (body : List Item) : Prop :=
  ∀ marker : Marker, (∀ placeholder, marker ≠ .slot placeholder) →
    ¬ marker.text <:+: body.flatMap Item.write

/-- Whether a segment is what reading makes of its text. -/
def Fits (before : List Char) : Segment → Prop
  | .item part => part.Fits before
  | .block name body =>
    Placed Item.write Item.Fits (before ++ (Marker.opens name).text) body ∧
      body.IsChain (fun first second => ¬ (first.isLiteral ∧ second.isLiteral)) ∧ Flat body

/-- Whether segments are what reading makes of a text that follows `before`.

Each of them fits in its place, and no two literals stand side by side. -/
structure Laid (before : List Char) (segments : List Segment) : Prop where
  placed : Placed write Fits before segments
  apart : segments.IsChain fun first second => ¬ (first.isLiteral ∧ second.isLiteral)

/-- Items are laid out as segments exactly if they fit and no two literals stand side by side. -/
theorem laid_map_item_iff {before : List Char} {items : List Item} :
    Laid before (items.map .item) ↔ Placed Item.write Item.Fits before items ∧
      items.IsChain fun first second => ¬ (first.isLiteral ∧ second.isLiteral) := by
  -- An item is the same as a part of its own, outside of all sections.
  have placed : Placed write Fits before (items.map .item) ↔
      Placed Item.write Item.Fits before items := by
    induction items generalizing before with
    | nil => rfl
    | cons item rest ih => exact and_congr_right fun _ => ih
  -- Only adjacent literals are left to compare, and these are the items' own.
  constructor
  · intro laid
    exact ⟨placed.1 laid.placed, (List.isChain_map _).1 laid.apart⟩
  · rintro ⟨fits, apart⟩
    exact ⟨placed.2 fits, (List.isChain_map _).2 apart⟩

/-- A character put in front of items is put in front of them as segments. -/
theorem map_item_consChar (c : Char) (items : List Item) :
    (Item.consChar c items).map .item = consChar c (items.map .item) := by
  -- Both join a literal at the front, if there is one.
  rcases items with _ | ⟨text | ⟨placeholder, indent⟩, rest⟩ <;> rfl

/-- A character that starts no marker can be put in front of what was read behind it. -/
theorem Laid.consChar {before rest : List Char} {c : Char} {segments : List Segment}
    (laid : Laid (before ++ [c]) segments)
    (unread : Marker.opening? (c :: (segments.flatMap write ++ rest)) = none) :
    Laid before (consChar c segments) := by
  obtain ⟨placed, apart⟩ := laid
  unfold Segment.consChar
  split
  · next text behind =>
    -- The character becomes part of the literal in front.
    obtain ⟨⟨-, free⟩, placed⟩ := placed
    have unread : Marker.opening? (c :: (text ++ (behind.flatMap write ++ rest))) = none := by
      simpa [write, Item.write] using unread
    have fits : (item (.literal (c :: text))).Fits before :=
      ⟨List.cons_ne_nil c text, fun marker => Marker.not_infix_cons unread (free marker)⟩
    refine ⟨⟨fits, ?_⟩, ?_⟩
    · simpa [write, Item.write] using placed
    · rw [List.isChain_cons] at apart ⊢
      exact apart
  · next other =>
    -- It becomes a literal, and there is none in front that it could join.
    have fits : (item (.literal [c])).Fits before :=
      ⟨List.cons_ne_nil c [],
        fun marker => Marker.not_infix_cons (by exact unread) marker.not_infix_nil⟩
    refine ⟨⟨fits, placed⟩, List.isChain_cons.2 ⟨?_, apart⟩⟩
    rintro (⟨text | ⟨placeholder, indent⟩⟩ | ⟨name, body⟩) front ⟨-, literal⟩
    · obtain ⟨behind, same⟩ := List.head?_eq_some_iff.1 front
      exact other text behind same
    · simp [isLiteral, Item.isLiteral] at literal
    · simp [isLiteral] at literal

end Segment

namespace Template

/-- Matching the sections of a text loses none of it. -/
theorem write_matched (pieces : List Piece) :
    (∀ segments, outside pieces = .ok segments →
      segments.flatMap Segment.write = pieces.flatMap Piece.write) ∧
    (∀ name body after, inside name pieces = .ok (body, after) →
      body.flatMap Item.write ++ ((Marker.closes name).text ++ after.flatMap Segment.write) =
        pieces.flatMap Piece.write) := by
  -- Each piece is written in front of those behind it, the marks of sections included.
  apply matched_induction
  case nil => rfl
  case char =>
    intro c rest segments _ ih
    rw [flatMap_consChar fun _ => rfl, ih]
    rfl
  case slot =>
    intro placeholder indent rest segments ih
    simp [Segment.write, Item.write, Piece.write, ih]
  case opens =>
    intro name indent rest body after ih
    simp [Segment.write, Piece.write, ← ih]
  case charInside =>
    intro name c rest body after _ ih
    rw [flatMap_item_consChar fun _ => rfl, List.cons_append, ih]
    rfl
  case slotInside =>
    intro name placeholder indent rest body after ih
    simp [Item.write, Piece.write, ← ih]
  -- The mark that closes the section is counted with it, so nothing is added here.
  case closes =>
    intro name indent rest after ih
    simp [Piece.write, ih]

/-- Matching the sections of a text lays it out as segments, and each section as items. -/
theorem laid_matched (pieces : List Piece) :
    (∀ segments, outside pieces = .ok segments →
      ∀ before, Piece.Faithful before pieces → Segment.Laid before segments) ∧
    (∀ name body after, inside name pieces = .ok (body, after) →
      ∀ before, Piece.Faithful before pieces →
        Segment.Laid before (body.map .item) ∧ Segment.Flat body ∧
          Segment.Laid (before ++ body.flatMap Item.write ++ (Marker.closes name).text) after) := by
  apply matched_induction
  case nil => exact fun before _ => ⟨trivial, .nil⟩
  case char =>
    intro c rest segments found ih before ⟨unread, faithful⟩
    -- The text behind the character is that of the segments behind it.
    have text := (write_matched rest).1 segments found
    rw [← text, ← List.append_nil (segments.flatMap Segment.write)] at unread
    exact (ih _ faithful).consChar unread
  case slot =>
    intro placeholder indent rest segments ih before ⟨aligned, faithful⟩
    have laid := ih _ faithful
    refine ⟨⟨aligned, laid.placed⟩, List.isChain_cons.2 ⟨?_, laid.apart⟩⟩
    simp [Segment.isLiteral, Item.isLiteral]
  case opens =>
    intro name indent rest body after ih before ⟨_, faithful⟩
    -- The section starts behind its first mark, and the text goes on behind its second.
    obtain ⟨items, flat, laid⟩ := ih _ faithful
    obtain ⟨placed, apart⟩ := Segment.laid_map_item_iff.1 items
    refine ⟨⟨⟨placed, apart, flat⟩, ?_⟩, List.isChain_cons.2 ⟨?_, laid.apart⟩⟩
    · simpa [Segment.write] using laid.placed
    · simp [Segment.isLiteral]
  case charInside =>
    intro name c rest body after found ih before ⟨unread, faithful⟩
    have text := (write_matched rest).2 name body after found
    rw [← text] at unread
    obtain ⟨items, flat, laid⟩ := ih _ faithful
    have behind : Marker.opening? (c :: ((body.map Segment.item).flatMap Segment.write ++
        ((Marker.closes name).text ++ after.flatMap Segment.write))) = none := by
      simpa [List.flatMap_map, Segment.write] using unread
    rw [Segment.map_item_consChar, Segment.Flat, flatMap_item_consChar fun _ => rfl]
    refine ⟨items.consChar behind, fun marker other => ?_, by simpa using laid⟩
    exact Marker.not_infix_cons unread (flat marker other)
  case slotInside =>
    intro name placeholder indent rest body after ih before ⟨aligned, faithful⟩
    obtain ⟨items, flat, laid⟩ := ih _ faithful
    refine ⟨⟨⟨aligned, items.placed⟩, List.isChain_cons.2 ⟨?_, items.apart⟩⟩, ?_, ?_⟩
    · simp [Segment.isLiteral, Item.isLiteral]
    · -- The mark of a section is not that of the slot, so it would stand behind the slot.
      intro marker other member
      rcases Marker.eq_or_infix_of_infix_append member with same | deeper
      · exact other placeholder same
      · exact flat marker other deeper
    · simpa [Item.write] using laid
  case closes =>
    intro name indent rest after ih before ⟨_, faithful⟩
    refine ⟨⟨trivial, .nil⟩, fun marker _ => marker.not_infix_nil, ?_⟩
    simpa using ih _ faithful

/-- Whether an item stands in a template, in a section or outside. -/
def Holds (template : Template) (part : Item) : Prop :=
  .item part ∈ template.segments ∨
    ∃ name body, .block name body ∈ template.segments ∧ part ∈ body

/-- Whether a template is a source cut at its known tokens, and nowhere else. -/
structure Canonical (source : String) (template : Template) : Prop where
  /-- Written back, the template is the source. -/
  written : template.write = source
  /-- No literal is empty, and no known token stands in one. -/
  literals : ∀ text, template.Holds (.literal text) →
    text ≠ [] ∧ ∀ marker : Marker, ¬ marker.text <:+: text
  /-- Outside of sections, no literal follows another one. -/
  apart : template.segments.IsChain fun first second => ¬ (first.isLiteral ∧ second.isLiteral)
  /-- Nor does one in a section. -/
  apart_inside : ∀ name body, .block name body ∈ template.segments →
    body.IsChain fun first second => ¬ (first.isLiteral ∧ second.isLiteral)
  /-- Sections are not nested: the text of one has no mark of a section. -/
  flat : ∀ name body, .block name body ∈ template.segments → Segment.Flat body
  /-- Outside of sections, a slot has the indent of the line that its token stands on. -/
  indent : ∀ earlier placeholder indent later,
    template.segments = earlier ++ .item (.slot placeholder indent) :: later →
      indent = lineIndent (earlier.flatMap Segment.write)
  /-- So it has in a section, whose first mark may stand on the same line. -/
  indent_inside : ∀ earlier name first placeholder indent second later,
    template.segments =
        earlier ++ .block name (first ++ .slot placeholder indent :: second) :: later →
      indent = lineIndent (earlier.flatMap Segment.write ++ (Marker.opens name).text ++
        first.flatMap Item.write)

variable {source : String} {template : Template}

/-- A template that was read can be written back. -/
theorem write_of_parse (read : parse source = .ok template) : template.write = source := by
  -- The segments are written as the pieces are, and the pieces make up the text.
  rw [write, (write_matched _).1 _ (matched_of_parse read), Piece.flatMap_write_cut,
    String.ofList_toList]

/-- The segments of a template that was read are laid out as reading does. -/
theorem laid_of_parse (read : parse source = .ok template) :
    Segment.Laid [] template.segments :=
  -- The pieces of a text are faithful to it from the start of its first line.
  (laid_matched _).1 _ (matched_of_parse read) [] (Piece.faithful_cut [] rfl)

/--
Reading a template loses nothing of its text, and cuts it in one way only.

So two texts are read as the same template only if they are the same text.
-/
theorem canonical_of_parse (read : parse source = .ok template) :
    template.Canonical source ∧ ∀ other, parse other = .ok template → other = source := by
  have laid := laid_of_parse read
  -- A section fits in its place, and the place tells where its items are.
  have section_fits : ∀ name body, .block name body ∈ template.segments →
      ∃ before, (Segment.block name body).Fits before :=
    fun name body member => laid.placed.exists_fits member
  refine ⟨?canonical, ?unique⟩
  case unique =>
    intro other same
    rw [← write_of_parse same, write_of_parse read]
  case canonical =>
    refine
      { written := write_of_parse read
        literals := ?literals
        apart := laid.apart
        apart_inside := ?apart
        flat := ?flat
        indent := ?indent
        indent_inside := ?inside }
    -- A literal fits where it stands, in a section or outside.
    case literals =>
      rintro text (outside | ⟨name, body, listed, inside⟩)
      · obtain ⟨before, fits⟩ := laid.placed.exists_fits outside
        exact fits
      · obtain ⟨before, placed, -⟩ := section_fits name body listed
        obtain ⟨place, fits⟩ := placed.exists_fits inside
        exact fits
    case apart =>
      intro name body listed
      obtain ⟨before, -, apart, -⟩ := section_fits name body listed
      exact apart
    case flat =>
      intro name body listed
      obtain ⟨before, -, -, flat⟩ := section_fits name body listed
      exact flat
    -- The indent of a slot is read off the text in front of it.
    case indent =>
      intro earlier placeholder indent later split
      have placed := laid.placed
      rw [split] at placed
      exact placed.fits
    case inside =>
      intro earlier name first placeholder indent second later split
      have placed := laid.placed
      rw [split] at placed
      obtain ⟨body, -⟩ := placed.fits
      exact body.fits

/-- A section behind an indent, with a slot on its first line and one on its second. -/
theorem canonical_of_parse_indented_section :
    let source := "a[FOO]\n\t[SCAFFOLD_START][IMPORTS_BLOCK] [\n [INNER_NAV_HOST][SCAFFOLD_END]b"
    ∃ template, parse source = .ok template ∧ template.Canonical source ∧
      template.Holds (.slot .imports ['\t']) ∧ template.Holds (.slot .innerNavHost [' ']) := by
  intro source
  -- The unknown token stays in its literal, and the tab and the blank are the indents.
  have read : parse source = .ok
      ⟨[.item (.literal "a[FOO]\n\t".toList),
        .block .scaffold [.slot .imports ['\t'], .literal " [\n ".toList,
          .slot .innerNavHost [' ']],
        .item (.literal ['b'])]⟩ := by
    decide +kernel
  refine ⟨_, read, (canonical_of_parse read).1, ?_, ?_⟩
  · exact .inr ⟨.scaffold, _, .tail _ (.head _), by simp⟩
  · exact .inr ⟨.scaffold, _, .tail _ (.head _), by simp⟩

end Template

end Navigation
