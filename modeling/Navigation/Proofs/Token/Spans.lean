import Navigation.Proofs.Token.Occurrences

/-! Tokens by their bytes: which spans of a text are tokens, and that the search finds the first. -/

namespace Navigation.Token

/-- Whether the bytes of a text from `start` up to `stop` are those of the token of a name. -/
structure Spans (text name : String) (start stop : Nat) : Prop where
  named : isName name.toList = true
  bounded : stop ≤ text.utf8ByteSize
  bytes : text.toByteArray.extract start stop = (write name).toByteArray

/-- A token is its name between brackets. -/
theorem write_eq (name : String) : write name = "[" ++ name ++ "]" := by
  -- As characters, both are the bracketed name.
  rw [← String.toList_inj]
  simp [write, bracket]

/-- A token takes a byte for each bracket, and those of its name. -/
theorem utf8ByteSize_write (name : String) :
    (write name).utf8ByteSize = name.utf8ByteSize + 2 := by
  -- Each bracket is one byte.
  have opening : "[".utf8ByteSize = 1 := rfl
  have closing : "]".utf8ByteSize = 1 := rfl
  rw [write_eq, String.utf8ByteSize_append, String.utf8ByteSize_append]
  omega

/-- What is taken of a text behind the bytes in front is taken of what follows them. -/
theorem extract_append (front text : String) (length : Nat) :
    (front ++ text).toByteArray.extract front.utf8ByteSize (front.utf8ByteSize + length) =
      text.toByteArray.extract 0 length := by
  -- The bytes in front are skipped.
  have skipped := ByteArray.extract_append_size_add (a := front.toByteArray)
    (b := text.toByteArray) (i := 0) (j := length)
  rwa [String.toByteArray_append, ← String.size_toByteArray]

/-- A text in the middle of another one has the bytes right behind those in front of it. -/
theorem extract_append_middle (front middle rest : String) :
    (front ++ middle ++ rest).toByteArray.extract front.utf8ByteSize
      (front.utf8ByteSize + middle.utf8ByteSize) = middle.toByteArray := by
  -- The bytes in front are skipped, and those behind are not reached.
  rw [String.append_assoc, extract_append, String.toByteArray_append, ← String.size_toByteArray]
  exact ByteArray.extract_append_eq_left rfl

/-- A text whose first bytes are those of another one starts with it. -/
theorem exists_append_of_extract {text front : String}
    (taken : text.toByteArray.extract 0 front.utf8ByteSize = front.toByteArray)
    (bounded : front.utf8ByteSize ≤ text.utf8ByteSize) : ∃ rest : String, text = front ++ rest := by
  -- Bytes can be decoded in one way only, so the characters of the first are among the others.
  have cut := ByteArray.extract_eq_extract_append_extract (a := text.toByteArray)
    front.utf8ByteSize (Nat.zero_le _) bounded
  rw [taken, ← String.size_toByteArray, ByteArray.extract_zero_size, ← String.utf8Encode_toList,
    ← String.utf8Encode_toList] at cut
  obtain ⟨rest, same⟩ := List.isPrefix_of_utf8Encode_append_eq_utf8Encode _ cut.symm
  refine ⟨String.ofList rest, ?_⟩
  rw [← String.toList_inj, String.toList_append, String.toList_ofList, same]

namespace Spans

variable {text name : String} {start stop : Nat}

/-- A span is as long as its token. -/
theorem stop_eq (spans : Spans text name start stop) :
    stop = start + (write name).utf8ByteSize := by
  -- The bytes that are taken lie inside the text, and they are not none.
  have size := congrArg ByteArray.size spans.bytes
  rw [ByteArray.size_extract, String.size_toByteArray, String.size_toByteArray,
    Nat.min_eq_left spans.bounded, utf8ByteSize_write] at size
  rw [utf8ByteSize_write]
  omega

/--
A span starts and ends between characters.

The bytes of a token are a text of their own, so it is not cut off inside a character.
-/
theorem isValid (spans : Spans text name start stop) :
    String.Pos.Raw.IsValid text ⟨start⟩ ∧ String.Pos.Raw.IsValid text ⟨stop⟩ := by
  have valid : (text.toByteArray.extract start stop).IsValidUTF8 := by
    rw [spans.bytes]
    exact (write name).isValidUTF8
  -- Only a span without bytes could lie anywhere.
  have long := spans.stop_eq
  rw [utf8ByteSize_write] at long
  have ordered : start ≤ stop := by omega
  have proper : (⟨start⟩ : String.Pos.Raw) ≠ ⟨stop⟩ := by
    rw [ne_eq, String.Pos.Raw.mk.injEq]
    omega
  exact ((String.Pos.Raw.isValidUTF8_extract_iff ⟨start⟩ ⟨stop⟩ ordered spans.bounded).1
    valid).resolve_left proper

/-- A span cuts its text into what is in front, the token, and what is behind. -/
theorem exists_append (spans : Spans text name start stop) :
    ∃ front rest : String, text = front ++ write name ++ rest ∧ start = front.utf8ByteSize := by
  -- The text is cut where the span starts, and then the token opens what is left.
  obtain ⟨front, tail, rfl, cut⟩ := String.Pos.Raw.isValid_iff_exists_append.1 spans.isValid.1
  obtain rfl : start = front.utf8ByteSize := congrArg String.Pos.Raw.byteIdx cut
  have bytes := spans.bytes
  have bounded := spans.bounded
  rw [spans.stop_eq, extract_append] at bytes
  rw [spans.stop_eq, String.utf8ByteSize_append] at bounded
  obtain ⟨rest, rfl⟩ := exists_append_of_extract bytes (by omega)
  exact ⟨front, rest, by rw [String.append_assoc], rfl⟩

/-- The bytes between the brackets of a span are those of its name. -/
theorem inside (spans : Spans text name start stop) :
    text.toByteArray.extract (start + 1) (stop - 1) = name.toByteArray := by
  -- The brackets take one byte each, so the name is what is in the middle.
  obtain ⟨front, rest, rfl, rfl⟩ := spans.exists_append
  have middle := extract_append_middle (front ++ "[") name ("]" ++ rest)
  have opening : "[".utf8ByteSize = 1 := rfl
  have long : front.utf8ByteSize + 1 + name.utf8ByteSize = stop - 1 := by
    rw [spans.stop_eq, utf8ByteSize_write]
    omega
  rw [String.utf8ByteSize_append, opening, long] at middle
  rw [write_eq]
  simpa only [String.append_assoc] using middle

end Spans

/-- The length of a text in bytes is that of its UTF-8 form. -/
theorem byteLength_eq (text : List Char) :
    byteLength text = (String.ofList text).utf8ByteSize := by
  -- One character is encoded at a time.
  induction text with
  | nil => rfl
  | cons c rest ih => simp [byteLength, ih, String.ofList_cons]

namespace Occurrence

/-- An occurrence that starts behind another one does so in bytes as well. -/
theorem stop_le_start {one later : Occurrence} (apart : one.upTo <+: later.before) :
    one.stop ≤ later.start := by
  -- The first one and its text in front are part of what the later one has in front.
  obtain ⟨gap, longer⟩ := apart
  simp only [stop, start, byteLength_eq, ← longer, upTo, String.ofList_append,
    String.utf8ByteSize_append]
  omega

/-- An occurrence of a text is a span of it. -/
theorem In.spans {found : Occurrence} {text : String} (inside : found.In text.toList) :
    Spans text (String.ofList found.name) found.start found.stop := by
  -- The text is the one in front, the token, and the one behind, put together.
  have token : write (String.ofList found.name) = String.ofList (bracket found.name) := by
    simp [write]
  have whole : text = String.ofList found.before ++ String.ofList (bracket found.name) ++
      String.ofList found.after := by
    rw [← String.toList_inj, ← inside.whole]
    simp [Occurrence.text]
  refine ⟨?_, ?_, ?_⟩
  · rw [String.toList_ofList]
    exact inside.named
  · rw [whole, String.utf8ByteSize_append, String.utf8ByteSize_append]
    simp only [stop, start, byteLength_eq]
    omega
  · rw [token, whole]
    simp only [stop, start, byteLength_eq]
    exact extract_append_middle _ _ _

end Occurrence

/-- Every span of a text is that of an occurrence. -/
theorem Spans.exists_in {text name : String} {start stop : Nat}
    (spans : Spans text name start stop) :
    ∃ found : Occurrence, found.In text.toList ∧ String.ofList found.name = name ∧
      found.start = start ∧ found.stop = stop := by
  -- The span says what is in front and what is behind.
  have long := spans.stop_eq
  have named := spans.named
  obtain ⟨front, rest, rfl, rfl⟩ := spans.exists_append
  refine ⟨⟨front.toList, name.toList, rest.toList⟩, ⟨named, ?_⟩, String.ofList_toList, ?_, ?_⟩
  · simp [Occurrence.text, write]
  · rw [Occurrence.start, byteLength_eq, String.ofList_toList]
  · rw [Occurrence.stop, Occurrence.start, byteLength_eq, byteLength_eq, String.ofList_toList, long]
    rfl

/-- Two spans of a text are the same, or one of them ends before the other starts. -/
theorem Spans.eq_or_apart {text name other : String} {start stop start' stop' : Nat}
    (first : Spans text name start stop) (second : Spans text other start' stop') :
    (name = other ∧ start = start' ∧ stop = stop') ∨ stop ≤ start' ∨ stop' ≤ start := by
  -- What holds of the occurrences holds of their bytes.
  obtain ⟨one, inside, rfl, rfl, rfl⟩ := first.exists_in
  obtain ⟨two, among, rfl, rfl, rfl⟩ := second.exists_in
  rcases inside.eq_or_apart among with same | apart | apart
  · rw [same]
    exact .inl ⟨rfl, rfl, rfl⟩
  · exact .inr (.inl (Occurrence.stop_le_start apart))
  · exact .inr (.inr (Occurrence.stop_le_start apart))

/-- What the search comes back with: the first span of all, cut between characters. -/
structure FirstSpan (text : String) (found : Occurrence) : Prop where
  spans : Spans text (String.ofList found.name) found.start found.stop
  first : ∀ name start stop, Spans text name start stop → found.start ≤ start
  opens : String.Pos.Raw.IsValid text ⟨found.start⟩
  closes : String.Pos.Raw.IsValid text ⟨found.stop⟩
  inside : text.toByteArray.extract (found.start + 1) (found.stop - 1) =
    (String.ofList found.name).toByteArray

/-- What is found is the first span. -/
theorem firstSpan_of_find? {text : String} {found : Occurrence}
    (located : find? text.toList = some found) : FirstSpan text found := by
  obtain ⟨inside, first⟩ := in_of_find? located
  refine ⟨inside.spans, ?_, inside.spans.isValid.1, inside.spans.isValid.2, inside.spans.inside⟩
  -- Any other span has at least as much of the text in front.
  intro name start stop spans
  obtain ⟨other, among, -, rfl, -⟩ := spans.exists_in
  obtain ⟨gap, longer⟩ := first other among
  simp only [Occurrence.start, byteLength_eq, ← longer, String.ofList_append,
    String.utf8ByteSize_append]
  omega

/-- Nothing is found exactly if no span of the text is a token. -/
theorem find?_eq_none_iff {text : String} :
    find? text.toList = none ↔ ∀ name start stop, ¬ Spans text name start stop := by
  constructor
  · intro absent name start stop spans
    obtain ⟨found, inside, -⟩ := spans.exists_in
    exact not_in_of_find?_eq_none absent found inside
  · -- Anything found would be a span.
    intro none
    cases located : find? text.toList with
    | none => rfl
    | some found => exact absurd (firstSpan_of_find? located).spans (none _ _ _)

/-- A token is found in every text that is put around it. -/
theorem occursIn_append {name : String} (named : isName name.toList = true)
    (before after : String) : occursIn (before ++ write name ++ after) = true := by
  -- It is a token of that text, so the search does not come back with nothing.
  have inside : Occurrence.In ⟨before.toList, name.toList, after.toList⟩
      (before ++ write name ++ after).toList := ⟨named, by simp [Occurrence.text, write]⟩
  rw [← Bool.not_eq_false, occursIn_eq_false_iff]
  intro absent
  exact not_in_of_find?_eq_none absent _ inside

/--
The search finds the first of all token spans of a text, and searching on finds each of them once.

Spans never overlap, so nothing is missed by going on behind the one that was found. A token is
found whatever text stands around it.
-/
theorem find?_first_span (text : String) :
    ((find? text.toList).isSome = true ↔ ∃ name start stop, Spans text name start stop) ∧
    (∀ found, find? text.toList = some found → FirstSpan text found) ∧
    (∀ name start stop other start' stop', Spans text name start stop →
      Spans text other start' stop' →
      (name = other ∧ start = start' ∧ stop = stop') ∨ stop ≤ start' ∨ stop' ≤ start) ∧
    (∀ name start stop, Spans text name start stop ↔
      ∃ found ∈ findAll text.toList, String.ofList found.name = name ∧
        found.start = start ∧ found.stop = stop) ∧
    (findAll text.toList).Pairwise (fun one later => one.stop ≤ later.start) ∧
    ∀ before name after : String, isName name.toList = true →
      occursIn (before ++ write name ++ after) = true := by
  refine ⟨?_, fun found => firstSpan_of_find?, ?_, ?_, ?_, ?_⟩
  · rw [Option.isSome_iff_ne_none, ne_eq, find?_eq_none_iff]
    simp only [Classical.not_forall, Classical.not_not]
  · intro name start stop other start' stop' first second
    exact first.eq_or_apart second
  · -- The spans are those of the occurrences, and searching on finds these.
    intro name start stop
    constructor
    · intro spans
      obtain ⟨found, inside, same⟩ := spans.exists_in
      exact ⟨found, mem_findAll_iff.2 inside, same⟩
    · rintro ⟨found, listed, rfl, rfl, rfl⟩
      exact (mem_findAll_iff.1 listed).spans
  · exact (pairwise_findAll text.toList).imp Occurrence.stop_le_start
  · intro before name after named
    exact occursIn_append named before after

/-- A bracket that opens nothing, behind a letter of two bytes, does not hide the token after it. -/
theorem find?_first_span_of_nested_brackets :
    ∃ found, find? "é[[A][B_2]".toList = some found ∧ found.start = 3 ∧ found.stop = 6 ∧
      FirstSpan "é[[A][B_2]" found ∧ occursIn ("é[" ++ write "A" ++ "[B_2]") = true := by
  -- The first bracket is followed by another, and is no token's.
  have located : find? "é[[A][B_2]".toList = some ⟨['é', '['], ['A'], "[B_2]".toList⟩ := by
    decide
  obtain ⟨-, first, -, -, -, holds⟩ := find?_first_span "é[[A][B_2]"
  exact ⟨_, located, by decide, by decide, first _ located, holds "é[" "A" "[B_2]" (by decide)⟩

end Navigation.Token
