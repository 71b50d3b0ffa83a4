import Navigation.Proofs.Outcome
import Navigation.Proofs.Template.Marker
import Navigation.Proofs.Template.Pieces
import Navigation.Proofs.Token.Occurrences

/-! Reading from token to token comes to matching the sections of a text cut into pieces. -/

namespace Navigation

namespace Marker

/-- Where no token opens, no marker does. -/
theorem opening?_of_token_eq_none {text : List Char} (absent : Token.opening? text = none) :
    opening? text = none := by
  -- A marker is a token with one of the known names.
  simp [opening?, absent]

/-- The token of an unknown name opens no marker. -/
theorem opening?_bracket_of_unknown {name : List Char} (named : Token.isName name = true)
    (unknown : ofName? (String.ofList name) = none) (rest : List Char) :
    opening? (Token.bracket name ++ rest) = none := by
  -- The token is read, and then its name is looked up.
  have token : Token.opening? (Token.bracket name ++ rest) = some (name, rest) :=
    Token.opening?_eq_some_iff.2 ⟨named, rfl⟩
  simp [opening?, token, unknown]

end Marker

namespace Piece

open Template (lastLine lineIndent lastLine_snoc lastLine_append)

/-- Text without opening brackets is cut into its characters. -/
theorem cut_append_of_not_mem {text : List Char} (absent : '[' ∉ text) (before rest : List Char) :
    cut (lastLine before) (text ++ rest) =
      text.map .char ++ cut (lastLine (before ++ text)) rest := by
  -- A marker needs a bracket to open, so each character is passed over.
  induction text generalizing before with
  | nil => simp
  | cons c text ih =>
    obtain ⟨here, behind⟩ := not_or.1 (mt List.mem_cons.2 absent)
    have unread : Marker.opening? (c :: (text ++ rest)) = none :=
      Marker.opening?_of_token_eq_none (Token.opening?_of_ne (Ne.symm here) _)
    rw [List.cons_append, cut_of_opening?_eq_none unread, ← lastLine_snoc, ih behind]
    simp

/--
A token that is no marker is cut into its characters.

So a search that goes on behind its closing bracket has not gone past a marker.
-/
theorem cut_bracket_of_unknown {name : List Char} (named : Token.isName name = true)
    (unknown : Marker.ofName? (String.ofList name) = none) (before rest : List Char) :
    cut (lastLine before) (Token.bracket name ++ rest) =
      (Token.bracket name).map .char ++ cut (lastLine (before ++ Token.bracket name)) rest := by
  -- No marker opens at the token's own bracket, and there is no other one up to its end.
  have unread := Marker.opening?_bracket_of_unknown named unknown rest
  have absent : '[' ∉ name ++ [']'] := by
    simpa using Token.bracket_not_mem_of_isName named
  have inner := cut_append_of_not_mem absent (before ++ ['[']) rest
  rw [Token.bracket, List.cons_append] at unread ⊢
  rw [cut_of_opening?_eq_none unread, ← lastLine_snoc, inner]
  simp

/-- A marker at the front of a text is a piece of its own. -/
theorem cut_marker (marker : Marker) (before rest : List Char) :
    cut (lastLine before) (marker.text ++ rest) =
      .mark marker (lineIndent before) :: cut (lastLine (before ++ marker.text)) rest := by
  -- It is read where it stands, and it stands on one line.
  rw [cut_of_opening? (Marker.opening?_eq_some_iff.2 rfl),
    lastLine_append marker.newline_not_mem_text]
  rfl

/-- A text without tokens is cut into its characters. -/
theorem cut_of_find?_eq_none {text : List Char} (absent : Token.find? text = none)
    (line : List Char) : cut line text = text.map .char := by
  -- Nowhere does a token open, and so no marker.
  induction text generalizing line with
  | nil => simp
  | cons c rest ih =>
    obtain ⟨unopened, absent⟩ := Token.find?_cons_eq_none_iff.1 absent
    rw [cut_of_opening?_eq_none (Marker.opening?_of_token_eq_none unopened), ih absent,
      List.map_cons]

/-- The text in front of the first token is cut into its characters. -/
theorem cut_of_find? {text : List Char} {found : Token.Occurrence}
    (located : Token.find? text = some found) (before : List Char) :
    cut (lastLine before) text = found.before.map .char ++
      cut (lastLine (before ++ found.before)) (Token.bracket found.name ++ found.after) := by
  -- The search passes over the places where no token opens, and there no marker does.
  induction text generalizing before found with
  | nil => simp [Token.find?] at located
  | cons c rest ih =>
    rw [Token.find?] at located
    split at located
    · next opened =>
      obtain rfl := Option.some.inj located
      simp [← Token.eq_of_opening? opened]
    · next unopened =>
      obtain ⟨inner, deeper, rfl⟩ := Option.map_eq_some_iff.1 located
      have unread := Marker.opening?_of_token_eq_none unopened
      rw [cut_of_opening?_eq_none unread, ← lastLine_snoc, ih deeper]
      simp

end Piece

/-- Characters make up one literal, if the last of them starts it and the others join it. -/
theorem foldr_of_joins {α : Type} (literal : List Char → α) {join : Char → List α → List α}
    {parts : List α} (starts : ∀ c, join c parts = literal [c] :: parts)
    (joins : ∀ c text, join c (literal text :: parts) = literal (c :: text) :: parts)
    (text : List Char) :
    text.foldr join parts = if text = [] then parts else literal text :: parts := by
  -- The characters are put in front from the last one on.
  induction text with
  | nil => rfl
  | cons c text ih =>
    rw [List.foldr_cons, ih]
    by_cases last : text = []
    · simp [last, starts]
    · simp [last, joins]

/-- Characters put in front of segments make up a literal, unless one stands there already. -/
theorem Segment.foldr_consChar {segments : List Segment}
    (apart : ∀ other rest, segments ≠ .item (.literal other) :: rest) (text : List Char) :
    text.foldr consChar segments =
      if text = [] then segments else .item (.literal text) :: segments := by
  -- Where no literal stands, the last character starts one.
  have starts (c : Char) : consChar c segments = .item (.literal [c]) :: segments := by
    unfold consChar
    split
    · next other rest => exact absurd rfl (apart other rest)
    · rfl
  exact foldr_of_joins (fun text => Segment.item (.literal text)) starts (fun _ _ => rfl) text

/-- Characters put in front of items make up a literal, unless one stands there already. -/
theorem Item.foldr_consChar {items : List Item}
    (apart : ∀ other rest, items ≠ .literal other :: rest) (text : List Char) :
    text.foldr consChar items = if text = [] then items else .literal text :: items := by
  -- Where no literal stands, the last character starts one.
  have starts (c : Char) : consChar c items = .literal [c] :: items := by
    unfold consChar
    split
    · next other rest => exact absurd rfl (apart other rest)
    · rfl
  exact foldr_of_joins Item.literal starts (fun _ _ => rfl) text

namespace Template

open Outcome (map_eq_ok_iff)

/-- Characters are matched by putting them in front. -/
theorem outside_map_char (text : List Char) (pieces : List Piece) :
    outside (text.map .char ++ pieces) =
      (outside pieces).map fun segments => text.foldr Segment.consChar segments := by
  -- The first character is put in front last.
  induction text with
  | nil => rw [List.map_nil, List.nil_append]; cases outside pieces <;> rfl
  | cons c text ih =>
    rw [List.map_cons, List.cons_append, outside, ih]
    cases outside pieces <;> rfl

/-- Characters in a section are put in front of its items. -/
theorem inside_map_char (name : Section) (text : List Char) (pieces : List Piece) :
    inside name (text.map .char ++ pieces) =
      (inside name pieces).map fun (items, after) => (text.foldr Item.consChar items, after) := by
  -- The first character is put in front last.
  induction text with
  | nil => rw [List.map_nil, List.nil_append]; cases inside name pieces <;> rfl
  | cons c text ih =>
    rw [List.map_cons, List.cons_append, inside, ih]
    cases inside name pieces <;> rfl

/-- A marker gives rise to no literal. -/
theorem ne_literal_of_outside_mark {marker : Marker} {indent : List Char} {pieces : List Piece}
    {segments : List Segment} (matched : outside (.mark marker indent :: pieces) = .ok segments)
    (other : List Char) (rest : List Segment) : segments ≠ .item (.literal other) :: rest := by
  -- It gives rise to a slot or to a section, or it is out of place.
  rintro rfl
  rcases marker with placeholder | opened | closed <;> simp [outside, map_eq_ok_iff] at matched

/-- A marker in a section gives rise to no literal, and one that ends it to nothing. -/
theorem ne_literal_of_inside_mark {name : Section} {marker : Marker} {indent : List Char}
    {pieces : List Piece} {items : List Item} {after : List Segment}
    (matched : inside name (.mark marker indent :: pieces) = .ok (items, after))
    (other : List Char) (rest : List Item) : items ≠ .literal other :: rest := by
  -- Only a slot leaves something in the section.
  rintro rfl
  rcases marker with placeholder | opened | closed
  · simp [inside, map_eq_ok_iff] at matched
  · simp [inside] at matched
  · rw [inside] at matched
    split at matched <;> simp [map_eq_ok_iff] at matched

end Template

namespace Reading

open Template (lastLine lineIndent lastLine_append outside inside outside_map_char inside_map_char
  ne_literal_of_outside_mark ne_literal_of_inside_mark)

/-- Whether no section was opened inside of another one. -/
def Shallow (reading : Reading) : Prop :=
  reading.stack.length ≤ 1

/-- What a reading comes to when certain pieces are left of the text.

The pieces are matched on their own, and what was read before is put in front of them. -/
def meaning (reading : Reading) (pieces : List Piece) : Except TemplateError (List Segment) :=
  match reading.stack with
  | [] =>
    (outside pieces).map fun segments =>
      reading.segments ++ reading.literal.foldr Segment.consChar segments
  | (name, body) :: _ =>
    (inside name pieces).map fun (items, after) =>
      reading.segments ++ .block name (body ++ reading.literal.foldr Item.consChar items) :: after

/-- Copying text is taking its characters as pieces. -/
theorem meaning_copy (reading : Reading) (text : List Char) (pieces : List Piece) :
    (reading.copy text).meaning pieces = reading.meaning (text.map .char ++ pieces) := by
  -- The literal grows at its end, where the characters of the pieces come in.
  simp only [meaning, copy]
  split
  · rw [outside_map_char]
    cases outside pieces <;> simp [Except.map]
  · rw [inside_map_char]
    cases inside _ pieces <;> simp [Except.map]

/-- In front of a marker, making an item of the copied text changes nothing. -/
theorem meaning_flush (reading : Reading) (marker : Marker) (indent : List Char)
    (pieces : List Piece) :
    reading.flush.meaning (.mark marker indent :: pieces) =
      reading.meaning (.mark marker indent :: pieces) := by
  obtain ⟨before, literal, stack, segments⟩ := reading
  by_cases none : literal = []
  · simp [flush, none]
  -- What is matched from the marker on has no literal in front that the text could join.
  · simp only [flush, if_neg none]
    rcases stack with _ | ⟨⟨name, body⟩, outer⟩
    · cases matched : outside (.mark marker indent :: pieces) with
      | error fault => simp [put, meaning, matched, Except.map]
      | ok behind =>
        have joined := Segment.foldr_consChar (ne_literal_of_outside_mark matched) literal
        simp [put, meaning, matched, Except.map, joined, none]
    · cases matched : inside name (.mark marker indent :: pieces) with
      | error fault => simp [put, meaning, matched, Except.map]
      | ok found =>
        have joined := Item.foldr_consChar (ne_literal_of_inside_mark matched) literal
        simp [put, meaning, matched, Except.map, joined, none]

/-- Taking a marker is matching it, once nothing is left to be copied. -/
theorem meaning_mark {reading : Reading} (shallow : reading.Shallow)
    (flushed : reading.literal = []) (marker : Marker) (pieces : List Piece) :
    reading.meaning (.mark marker (lineIndent reading.before) :: pieces) =
      (reading.take marker >>= fun taken => taken.meaning pieces) := by
  obtain ⟨before, literal, stack, segments⟩ := reading
  obtain rfl : literal = [] := flushed
  rcases stack with _ | ⟨⟨name, body⟩, outer⟩
  · -- Outside, a section may open, but none can close.
    rcases marker with placeholder | opened | closed
    · cases matched : outside pieces <;>
        simp [meaning, take, put, outside, matched, Except.map, Bind.bind, Except.bind]
    · cases matched : inside opened pieces <;>
        simp [meaning, take, outside, matched, Except.map, Bind.bind, Except.bind]
    · rfl
  · -- No other section is open around this one, so its end leads outside.
    obtain rfl : outer = [] := by
      simpa [Shallow] using shallow
    rcases marker with placeholder | opened | closed
    · cases matched : inside name pieces <;>
        simp [meaning, take, put, inside, matched, Except.map, Bind.bind, Except.bind]
    · rfl
    · by_cases same : closed = name
      · subst same
        cases matched : outside pieces <;>
          simp [meaning, take, inside, matched, Except.map, Bind.bind, Except.bind]
      · -- The end of another section fails on either side.
        have matched : inside name (.mark (.closes closed) (lineIndent before) :: pieces) =
            .error (.unexpectedSectionEnd closed) := by
          rw [inside, if_neg same]
        have taken : Reading.take (.closes closed) ⟨before, [], [(name, body)], segments⟩ =
            .error (.unexpectedSectionEnd closed) := if_neg (Ne.symm same)
        simp only [meaning]
        rw [matched, taken]
        rfl

/-- Making an item of the copied text leaves nothing to be copied, and reads nothing. -/
theorem literal_flush (reading : Reading) :
    reading.flush.literal = [] ∧ reading.flush.before = reading.before := by
  -- The item is put into the open section, or outside.
  unfold flush put
  split
  · next none => exact ⟨none, rfl⟩
  · split <;> exact ⟨rfl, rfl⟩

/-- Putting an item somewhere opens no section. -/
theorem length_stack_put (item : Item) (reading : Reading) :
    (reading.put item).stack.length = reading.stack.length := by
  -- The innermost section is put back where it was.
  unfold put
  split
  · next outside => rfl
  · next inside => simp [inside]

/-- Making an item of the copied text opens no section. -/
theorem Shallow.flush {reading : Reading} (shallow : reading.Shallow) :
    reading.flush.Shallow := by
  -- The literal goes into the innermost open section, which opens and closes none.
  unfold Reading.flush
  split
  · exact shallow
  · rw [Shallow, length_stack_put]
    exact shallow

/-- Taking a marker opens no section inside of another one, and reads nothing. -/
theorem Shallow.take {reading taken : Reading} {marker : Marker} (shallow : reading.Shallow)
    (given : reading.take marker = .ok taken) :
    taken.Shallow ∧ taken.before = reading.before := by
  obtain ⟨before, literal, stack, segments⟩ := reading
  -- A section only opens outside, and one that closes leaves a smaller stack.
  rcases marker with placeholder | opened | closed
  · -- A slot is put into the innermost section, so the stack stays as long as it is.
    obtain rfl := Except.ok.inj given
    refine ⟨by rw [Shallow, length_stack_put]; exact shallow, ?_⟩
    unfold put
    split <;> rfl
  · rcases stack with _ | ⟨section_, outer⟩
    · obtain rfl := Except.ok.inj given
      exact ⟨Nat.le_refl 1, rfl⟩
    · simp [Reading.take] at given
  · rcases stack with _ | ⟨⟨name, body⟩, outer⟩
    · simp [Reading.take] at given
    · simp only [Reading.take] at given
      split at given
      · obtain rfl := Except.ok.inj given
        exact ⟨Nat.le_of_succ_le shallow, rfl⟩
      · simp at given

/-- Copying the text in front of a marker and taking the marker is matching their pieces. -/
theorem meaning_token {reading : Reading} (shallow : reading.Shallow) (front : List Char)
    (marker : Marker) (pieces : List Piece) :
    reading.meaning (front.map .char ++
      .mark marker (lineIndent (reading.before ++ front)) :: pieces) =
        ((reading.copy front).flush.take marker >>= fun taken => taken.meaning pieces) := by
  -- The text is made an item first, so that nothing is left to be copied.
  obtain ⟨flushed, unread⟩ := literal_flush (reading.copy front)
  have flat : (reading.copy front).flush.Shallow := Shallow.flush shallow
  rw [← meaning_mark flat flushed, unread, meaning_flush, meaning_copy]
  rfl

/-- At the end of the text, an open section is an error. -/
theorem meaning_nil (reading : Reading) : reading.meaning [] = reading.finish := by
  obtain ⟨before, literal, stack, segments⟩ := reading
  rcases stack with _ | ⟨⟨name, body⟩, outer⟩
  · -- What is left to be copied is the last literal.
    have joined : literal.foldr Segment.consChar [] =
        if literal = [] then [] else [.item (.literal literal)] :=
      Segment.foldr_consChar (by simp) literal
    by_cases none : literal = [] <;>
      simp [meaning, finish, flush, put, outside, joined, none, Except.map]
  · rfl

/-- Reading from token to token is matching the pieces that the text is cut into. -/
theorem run_eq_meaning {reading : Reading} {text : List Char} (shallow : reading.Shallow) :
    reading.run text = reading.meaning (Piece.cut (lastLine reading.before) text) := by
  -- Each turn of the loop keeps what the reading comes to with the pieces that are left.
  fun_induction run reading text with
  | case1 reading text absent =>
    rw [Piece.cut_of_find?_eq_none absent, ← meaning_nil, meaning_copy, List.append_nil]
  | case2 reading text found located unknown ih =>
    -- The pieces of the token are its characters, as are those of the text in front.
    have named := (Token.in_of_find? located).1.named
    rw [ih shallow, meaning_copy, Piece.cut_of_find? located,
      Piece.cut_bracket_of_unknown named unknown]
    simp [copy, Token.Occurrence.upTo]
  | case3 reading text found located marker known ih =>
    have token : marker.text = Token.bracket found.name := by
      rw [Marker.text, Marker.name_of_ofName? known, String.toList_ofList]
    rw [Piece.cut_of_find? located, ← token, Piece.cut_marker, meaning_token shallow]
    cases given : (reading.copy found.before).flush.take marker with
    | error fault => rfl
    | ok taken =>
      -- Behind the marker the loop goes on with what was read up to its end.
      have flushed : (reading.copy found.before).flush.Shallow := Shallow.flush shallow
      obtain ⟨flat, still⟩ := flushed.take given
      have read : (taken.skip marker.text).before =
          reading.before ++ found.before ++ marker.text := by
        rw [skip, still, (literal_flush _).2, copy]
      have behind := ih taken flat
      rw [← token, read] at behind
      exact behind

end Reading

namespace Template

/-- Reading a template is matching the sections of the pieces that its text is cut into. -/
theorem parse_eq (source : String) :
    parse source = (outside (Piece.cut [] source.toList)).map mk := by
  -- Nothing was read in front of the text, so there is nothing to be put there.
  have flat : Reading.start.Shallow := Nat.zero_le 1
  have whole : Reading.start.run source.toList =
      (outside (Piece.cut [] source.toList)).map fun segments => segments :=
    Reading.run_eq_meaning flat
  rw [parse, whole]
  cases outside (Piece.cut [] source.toList) <;> rfl

/-- The segments of a template that was read are those that its pieces match. -/
theorem matched_of_parse {source : String} {template : Template}
    (read : parse source = .ok template) :
    outside (Piece.cut [] source.toList) = .ok template.segments := by
  -- A template is read only where matching the pieces succeeds, and is what it gives.
  rw [parse_eq] at read
  obtain ⟨segments, matched, rfl⟩ := Outcome.map_eq_ok_iff.1 read
  exact matched

end Template

end Navigation
