import Navigation.Proofs.Text.Cut
import Navigation.Proofs.Token.Laws

/-! Where the tokens of a text stand: apart from each other, and each met by searching on. -/

namespace Navigation.Token

/-- A name has no opening bracket. -/
theorem bracket_not_mem_of_isName {name : List Char} (named : isName name = true) :
    '[' ∉ name := by
  -- It is neither a capital letter nor a name part.
  intro member
  cases name with
  | nil => simp at member
  | cons c rest =>
    simp only [isName, Bool.and_eq_true, List.all_eq_true] at named
    rcases List.mem_cons.1 member with rfl | member
    · exact absurd named.1 (by decide)
    · exact absurd (named.2 _ member) (by decide)

/-- At one place of a text there is at most one token. -/
theorem eq_of_bracket_append {name other after rest : List Char} (first : isName name = true)
    (second : isName other = true) (same : bracket name ++ after = bracket other ++ rest) :
    name = other ∧ after = rest := by
  -- The reader gives both, and it gives one result.
  have one : opening? (bracket name ++ after) = some (name, after) :=
    opening?_eq_some_iff.2 ⟨first, rfl⟩
  have two : opening? (bracket name ++ after) = some (other, rest) :=
    opening?_eq_some_iff.2 ⟨second, same⟩
  simpa using one.symm.trans two

namespace Occurrence

/-- Whether a text has an occurrence: it is cut by it, and what stands in brackets is a name. -/
structure In (found : Occurrence) (text : List Char) : Prop where
  named : isName found.name = true
  whole : found.text = text

/-- An occurrence of the text behind another one, as one of the whole text. -/
def behind (found later : Occurrence) : Occurrence :=
  { later with before := found.upTo ++ later.before }

/-- What an occurrence is found in goes on behind it. -/
theorem text_eq (found : Occurrence) : found.text = found.upTo ++ found.after :=
  rfl

/-- The text in front of an occurrence is where its text starts. -/
theorem In.before_prefix {found : Occurrence} {text : List Char} (inside : found.In text) :
    found.before <+: text := by
  -- The text is what stands before the token, the token, and what is behind it.
  rw [← inside.whole, found.text_eq, upTo, List.append_assoc]
  exact List.prefix_append ..

/-- An occurrence behind another one is one of the whole text. -/
theorem in_behind_iff {found later : Occurrence} {text : List Char} (whole : found.text = text) :
    (found.behind later).In text ↔ later.In found.after := by
  -- The text up to the first one stands in front on both sides.
  have same : (found.behind later).text = text ↔ later.text = found.after := by
    rw [← whole, found.text_eq]
    simp [behind, Occurrence.text, List.append_assoc]
  exact ⟨fun inside => ⟨inside.named, same.1 inside.whole⟩,
    fun inside => ⟨inside.named, same.2 inside.whole⟩⟩

/-- A text has the token that opens it, if one does, and those of its tail. -/
theorem in_cons_iff {found : Occurrence} {c : Char} {rest : List Char} :
    found.In (c :: rest) ↔
      found.before = [] ∧ opening? (c :: rest) = some (found.name, found.after) ∨
        ∃ inner : Occurrence, inner.In rest ∧ found = { inner with before := c :: inner.before } := by
  obtain ⟨before, name, after⟩ := found
  constructor
  · -- What is in front of the token is empty, or starts with the first character.
    rintro ⟨named, whole⟩
    cases before with
    | nil => exact .inl ⟨rfl, opening?_eq_some_iff.2 ⟨named, whole.symm⟩⟩
    | cons d before =>
      obtain ⟨rfl, tail⟩ := List.cons.inj whole
      exact .inr ⟨⟨before, name, after⟩, ⟨named, tail⟩, rfl⟩
  · rintro (⟨rfl, opened⟩ | ⟨inner, inside, same⟩)
    · obtain ⟨named, whole⟩ := opening?_eq_some_iff.1 opened
      exact ⟨named, whole.symm⟩
    · rw [same]
      exact ⟨inside.named, congrArg (c :: ·) inside.whole⟩

/--
Of two tokens of a text, the one that starts first ends before the other starts.

A name has no opening bracket, so no token starts inside another one.
-/
theorem In.eq_or_upTo_prefix {one other : Occurrence} {text : List Char} (first : one.In text)
    (second : other.In text) (front : one.before <+: other.before) :
    one = other ∨ one.upTo <+: other.before := by
  obtain ⟨before, name, after⟩ := one
  obtain ⟨_, name', after'⟩ := other
  obtain ⟨gap, rfl⟩ := front
  -- Both tokens are compared from where the first one starts.
  have aligned : bracket name ++ after = gap ++ (bracket name' ++ after') := by
    have whole := first.whole.trans second.whole.symm
    simpa [Occurrence.text, List.append_assoc] using whole
  cases gap with
  | nil =>
    obtain ⟨rfl, rfl⟩ := eq_of_bracket_append first.named second.named aligned
    simp
  | cons c gap =>
    -- The gap starts with the bracket of the first token, and goes on to that of the other one.
    have opened : c = '[' ∧ name ++ [']'] ++ after = gap ++ '[' :: (name' ++ [']'] ++ after') := by
      simpa [bracket, eq_comm] using aligned
    obtain ⟨rfl, meet⟩ := opened
    have absent : '[' ∉ name ++ [']'] := by
      simpa using bracket_not_mem_of_isName first.named
    -- It has to hold all of the first token, which has no other bracket of that kind.
    obtain ⟨more, rfl⟩ := prefix_of_prefix_append absent ⟨after, meet⟩
    exact .inr ⟨more, by simp [upTo, bracket]⟩

/-- Two tokens of a text are the same, or one of them ends before the other starts. -/
theorem In.eq_or_apart {one other : Occurrence} {text : List Char} (first : one.In text)
    (second : other.In text) :
    one = other ∨ one.upTo <+: other.before ∨ other.upTo <+: one.before := by
  -- Both stand in one text, so what is in front of one starts what is in front of the other.
  rcases List.prefix_or_prefix_of_prefix first.before_prefix second.before_prefix with
    front | front
  · exact (first.eq_or_upTo_prefix second front).imp_right .inl
  · exact (second.eq_or_upTo_prefix first front).imp Eq.symm .inr

end Occurrence

/-- The search comes back without a token only from a text that has none. -/
theorem not_in_of_find?_eq_none {text : List Char} (absent : find? text = none)
    (other : Occurrence) : ¬ other.In text := by
  -- At every place the search has asked whether a token opens there.
  induction text generalizing other with
  | nil => exact fun inside => by simpa using other.length_after_lt inside.whole
  | cons c rest ih =>
    obtain ⟨unopened, absent⟩ := find?_cons_eq_none_iff.1 absent
    rw [Occurrence.in_cons_iff]
    rintro (⟨-, opened⟩ | ⟨inner, inside, -⟩)
    · simp [unopened] at opened
    · exact ih absent inner inside

/-- The search finds a token of the text, and no other one starts before it. -/
theorem in_of_find? {text : List Char} {found : Occurrence} (located : find? text = some found) :
    found.In text ∧ ∀ other : Occurrence, other.In text → found.before <+: other.before := by
  -- The search stops at the first place where a token opens.
  induction text generalizing found with
  | nil => simp [find?] at located
  | cons c rest ih =>
    rw [find?] at located
    split at located
    · next name after opened =>
      obtain rfl := Option.some.inj located
      exact ⟨Occurrence.in_cons_iff.2 (.inl ⟨rfl, opened⟩), fun _ _ => List.nil_prefix⟩
    · next unopened =>
      obtain ⟨inner, deeper, rfl⟩ := Option.map_eq_some_iff.1 located
      obtain ⟨inside, first⟩ := ih deeper
      refine ⟨Occurrence.in_cons_iff.2 (.inr ⟨inner, inside, rfl⟩), fun other among => ?_⟩
      -- Any other token is one of the tail as well.
      rcases Occurrence.in_cons_iff.1 among with ⟨-, opened⟩ | ⟨further, deeper, rfl⟩
      · simp [unopened] at opened
      · exact List.cons_prefix_cons.2 ⟨rfl, first further deeper⟩

/-- Every token that is found when each search goes on where the one before it has ended. -/
def findAll (text : List Char) : List Occurrence :=
  match _located : find? text with
  | none => []
  | some found => found :: (findAll found.after).map found.behind
termination_by text.length
decreasing_by exact Occurrence.length_after_lt (text_of_find? _located)

/-- Where nothing is found, the searching ends. -/
theorem findAll_of_eq_none {text : List Char} (absent : find? text = none) :
    findAll text = [] := by
  -- The search is made once, and gives nothing.
  rw [findAll]
  split
  · rfl
  · next located => simp [absent] at located

/-- What is found is followed by what is found behind it. -/
theorem findAll_of_eq_some {text : List Char} {found : Occurrence}
    (located : find? text = some found) :
    findAll text = found :: (findAll found.after).map found.behind := by
  -- The search is made once, and the rest is searched from behind what it gives.
  rw [findAll]
  split
  · next absent => simp [located] at absent
  · next other same =>
    obtain rfl : found = other := Option.some.inj (located.symm.trans same)
    rfl

/--
Searching on finds the tokens of a text, all of them and nothing else.

A search that went on anywhere inside a token it had found could not find more.
-/
theorem mem_findAll_iff {text : List Char} {other : Occurrence} :
    other ∈ findAll text ↔ other.In text := by
  induction text using findAll.induct generalizing other with
  | case1 text absent =>
    rw [findAll_of_eq_none absent]
    exact iff_of_false (by simp) (not_in_of_find?_eq_none absent other)
  | case2 text found located ih =>
    obtain ⟨inside, first⟩ := in_of_find? located
    rw [findAll_of_eq_some located, List.mem_cons, List.mem_map]
    constructor
    · -- What is found behind the first occurrence is one of the whole text.
      rintro (rfl | ⟨later, listed, rfl⟩)
      · exact inside
      · exact (Occurrence.in_behind_iff inside.whole).2 (ih.1 listed)
    · -- Any other token starts later, hence behind the one that was found.
      intro among
      rcases inside.eq_or_upTo_prefix among (first other among) with same | ⟨gap, further⟩
      · exact .inl same.symm
      · have cut : found.behind { other with before := gap } = other := by
          simp [Occurrence.behind, further]
        refine .inr ⟨{ other with before := gap }, ih.2 ?_, cut⟩
        rw [← Occurrence.in_behind_iff inside.whole, cut]
        exact among

/-- Searching on finds each token once, in the order in which they stand. -/
theorem pairwise_findAll (text : List Char) :
    (findAll text).Pairwise fun one later => one.upTo <+: later.before := by
  induction text using findAll.induct with
  | case1 text absent =>
    rw [findAll_of_eq_none absent]
    exact .nil
  | case2 text found located ih =>
    rw [findAll_of_eq_some located, List.pairwise_cons, List.pairwise_map]
    -- All that is found later has the first token in front of it.
    refine ⟨?_, ih.imp fun apart => ?_⟩
    · intro later listed
      obtain ⟨inner, -, rfl⟩ := List.mem_map.1 listed
      exact List.prefix_append ..
    · simpa [Occurrence.behind, Occurrence.upTo, List.append_assoc] using apart

end Navigation.Token
