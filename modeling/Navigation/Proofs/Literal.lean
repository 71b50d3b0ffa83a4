import Navigation.Literal
import Navigation.Proofs.Text.Delimited
import Navigation.Proofs.Token.Free

/-! Laws of quoted literals: how they are read back, and what else stands in them. -/

namespace Navigation.Literal

open Token (Rewritten find?)

/-- What a character behind a backslash stands for. -/
def meaning? : Char → Option Char
  | '\\' => some '\\'
  | '"' => some '"'
  | '$' => some '$'
  | 'n' => some '\n'
  | 'r' => some '\r'
  | 't' => some '\t'
  | _ => none

/-- The characters in front of the first quote without a backslash, and those behind it. -/
def scan : List Char → Option (List Char × List Char)
  | [] => none
  | '"' :: rest => some ([], rest)
  | '\\' :: c :: rest => (scan rest).map fun (inside, behind) => ('\\' :: c :: inside, behind)
  | c :: rest => (scan rest).map fun (inside, behind) => (c :: inside, behind)

/-- The value that was written as the characters between the quotes. -/
def unescape : List Char → Option (List Char)
  | [] => some []
  | ['\\'] => none
  | '\\' :: c :: rest => do some ((← meaning? c) :: (← unescape rest))
  | c :: rest => (unescape rest).map (c :: ·)

/-- The characters that are not written as themselves. -/
def Special (c : Char) : Prop :=
  c ∈ ['\\', '"', '$', '\n', '\r', '\t']

/-- A character is written as itself, or as a backslash and a character that means it. -/
theorem escape_cases (c : Char) :
    ¬ Special c ∧ escape c = [c] ∨ ∃ mark, meaning? mark = some c ∧ escape c = ['\\', mark] := by
  -- Six characters have an escape, and all others are their own.
  rw [escape.eq_def, Special]
  split
  case h_7 => exact .inl ⟨by simp_all, rfl⟩
  all_goals exact .inr ⟨_, rfl, rfl⟩

/-- No bracket stands behind a backslash. -/
theorem ne_bracket_of_meaning? {mark c : Char} (means : meaning? mark = some c) : mark ≠ '[' := by
  -- No escape stands for anything with a bracket as its mark.
  rintro rfl
  simp [meaning?] at means

/-- Escaping is writing a value anew, since a backslash separates. -/
theorem rewritten_escape (value : List Char) : Rewritten value (value.flatMap escape) := by
  -- One character of the value is written at a time.
  induction value with
  | nil => exact .nil
  | cons c rest ih =>
    rw [List.flatMap_cons]
    rcases escape_cases c with ⟨-, same⟩ | ⟨mark, means, escaped⟩
    · rw [same]
      exact .keep c ih
    · rw [escaped]
      exact .swap c (by decide) (by simpa using (ne_bracket_of_meaning? means).symm) ih

/-- A literal has a token only if its value has one. -/
theorem find?_encode {value : List Char} (free : find? value = none) :
    find? (encode value) = none := by
  -- The quotes separate the escaped value from whatever stands around it.
  have escaped : find? (value.flatMap escape ++ []) = none :=
    (rewritten_escape value).find?_eq_none (by rwa [List.append_nil])
  rw [List.append_nil] at escaped
  rw [encode, Token.find?_cons_eq_none_of_ne (by decide)]
  exact (Token.find?_append_separator (by decide) _ _).2 ⟨escaped, rfl⟩

/-- Scanning a character that is neither a quote nor a backslash goes on behind it. -/
theorem scan_cons {c : Char} (plain : ¬ Special c) (rest : List Char) :
    scan (c :: rest) = (scan rest).map fun (inside, behind) => (c :: inside, behind) := by
  -- The two characters that are treated in another way have escapes.
  simp only [Special, List.mem_cons, not_or] at plain
  rw [scan]
  · exact plain.2.1
  · exact fun _ _ same _ => plain.1 same

/-- Scanning stops at the quote behind an escaped value, and at no earlier one. -/
theorem scan_escaped (value rest : List Char) :
    scan (value.flatMap escape ++ '"' :: rest) = some (value.flatMap escape, rest) := by
  -- A backslash is taken together with the character behind it, be that a quote.
  induction value with
  | nil => rfl
  | cons c value ih =>
    rw [List.flatMap_cons]
    rcases escape_cases c with ⟨plain, same⟩ | ⟨mark, -, escaped⟩
    · simp only [same, List.cons_append, List.nil_append, scan_cons plain, ih,
        Option.map_some]
    · simp only [escaped, List.cons_append, List.nil_append, scan, ih, Option.map_some]

/-- A value is read back from what it is written as. -/
theorem unescape_escaped (value : List Char) : unescape (value.flatMap escape) = some value := by
  -- Each character is either its own, or meant by the one behind a backslash.
  induction value with
  | nil => rfl
  | cons c value ih =>
    rw [List.flatMap_cons]
    rcases escape_cases c with ⟨plain, same⟩ | ⟨mark, means, escaped⟩
    · simp only [Special, List.mem_cons, not_or] at plain
      rw [same, List.singleton_append, unescape, ih]
      · rfl
      · exact fun same _ => plain.1 same
      · exact fun _ _ same _ => plain.1 same
    · rw [escaped, List.cons_append, List.cons_append, List.nil_append, unescape, means, ih]
      rfl

/-- A literal tells where it ends, and which value it was written for. -/
theorem delimited_encode : Delimited (fun _ => True) encode := by
  -- Behind the opening quote, both texts are scanned and what is found is unescaped.
  intro value value' _ _ rest other same
  simp only [encode, List.cons_append, List.append_assoc, List.nil_append,
    List.cons.injEq, true_and] at same
  have scanned := scan_escaped value rest
  rw [same, scan_escaped, Option.some.injEq, Prod.mk.injEq] at scanned
  have read := unescape_escaped value
  rw [← scanned.1, unescape_escaped, Option.some.injEq] at read
  exact ⟨read.symm, scanned.2.symm⟩

/-- Characters that would end a line, or fill it, are not between the quotes. -/
theorem not_mem_escaped {c : Char} (control : c ∈ ['\n', '\r', '\t']) (value : List Char) :
    c ∉ value.flatMap escape := by
  intro member
  obtain ⟨d, -, written⟩ := List.mem_flatMap.1 member
  rcases escape_cases d with ⟨plain, same⟩ | ⟨mark, means, escaped⟩
  · -- A character written as itself is none of these, which have escapes.
    rw [same, List.mem_singleton] at written
    refine plain ?_
    rw [← written, Special]
    simp only [List.mem_cons, List.not_mem_nil, or_false] at control ⊢
    exact .inr (.inr (.inr control))
  · -- And none of them is a backslash, or has a meaning behind one.
    simp only [List.mem_cons, List.not_mem_nil, or_false] at control
    simp only [escaped, List.mem_cons, List.not_mem_nil, or_false] at written
    rcases written with rfl | rfl
    · exact absurd control (by decide)
    · rcases control with rfl | rfl | rfl <;> simp [meaning?] at means

/-- A literal has no line feed, whatever its value is. -/
theorem feed_not_mem_encode (value : List Char) : '\n' ∉ encode value := by
  -- A line feed is written as an escape, and the marks around are no line feeds.
  simp only [encode, List.mem_cons, List.mem_append, not_or]
  exact ⟨by decide, not_mem_escaped (by simp) value, by decide, by simp⟩

/-- What is between the quotes of the literal that a text starts with, and what is behind it. -/
def lex? : List Char → Option (List Char × List Char)
  | '"' :: rest => scan rest
  | _ => none

/-- Whether the character behind some others is escaped: they end in an odd run of backslashes. -/
def escapes (front : List Char) : Bool :=
  (front.reverse.takeWhile (· == '\\')).length % 2 == 1

/-- One more character escapes the next one exactly if it is a backslash and not escaped itself. -/
theorem escapes_snoc (front : List Char) (c : Char) :
    escapes (front ++ [c]) = (c == '\\' && !escapes front) := by
  simp only [escapes, List.reverse_append, List.reverse_singleton, List.singleton_append,
    List.takeWhile_cons]
  by_cases backslash : c = '\\'
  · -- The run gets longer by one, which changes whether it is odd.
    simp only [backslash, beq_self_eq_true, if_true, List.length_cons, Bool.true_and]
    generalize (front.reverse.takeWhile (· == '\\')).length = run
    rcases Nat.mod_two_eq_zero_or_one run with even | odd
    · simp [even, Nat.add_mod]
    · simp [odd, Nat.add_mod]
  · simp [backslash]

/-- Quotes and dollars of a value are escaped where it is written behind what escapes nothing. -/
theorem escapes_of_escaped_eq {value before front back : List Char} {mark : Char}
    (marks : mark ∈ ['"', '$']) (unescaped : escapes before = false)
    (split : value.flatMap escape = front ++ mark :: back) : escapes (before ++ front) = true := by
  -- One character of the value is passed at a time, until the front ends.
  induction value generalizing before front with
  | nil => simp at split
  | cons c value ih =>
    rw [List.flatMap_cons] at split
    rcases escape_cases c with ⟨plain, same⟩ | ⟨sign, -, escaped⟩
    · have other : c ≠ '\\' := fun backslash => plain (by simp [backslash, Special])
      rw [same, List.singleton_append] at split
      cases front with
      | nil =>
        -- A quote or a dollar is not written as itself.
        obtain ⟨rfl, -⟩ := List.cons_eq_cons.1 split
        simp only [List.mem_cons, List.not_mem_nil, or_false] at marks
        exact absurd (by rcases marks with rfl | rfl <;> simp [Special]) plain
      | cons d front =>
        obtain ⟨rfl, behind⟩ := List.cons_eq_cons.1 split
        have passed : escapes (before ++ [c]) = false := by
          rw [escapes_snoc, beq_false_of_ne other, Bool.false_and]
        simpa using ih passed behind
    · rw [escaped, List.cons_append, List.singleton_append] at split
      have odd : escapes (before ++ ['\\']) = true := by
        rw [escapes_snoc, unescaped]
        rfl
      match front, split with
      | [], split =>
        -- Neither of them is the backslash of an escape.
        obtain ⟨rfl, -⟩ := List.cons_eq_cons.1 split
        exact absurd marks (by decide)
      | [d], split =>
        obtain ⟨rfl, -⟩ := List.cons_eq_cons.1 split
        exact odd
      | d :: e :: front, split =>
        obtain ⟨rfl, second⟩ := List.cons_eq_cons.1 split
        obtain ⟨rfl, behind⟩ := List.cons_eq_cons.1 second
        have passed : escapes (before ++ ['\\', sign]) = false := by
          have two : before ++ ['\\', sign] = before ++ ['\\'] ++ [sign] := by simp
          rw [two, escapes_snoc, odd, Bool.not_true, Bool.and_false]
        simpa using ih passed behind

/--
What a value is written as between the quotes of its literal.

A reader that takes a backslash together with the character behind it stops at the closing quote,
whatever follows, and finds the value. It meets no end of a line, and nothing that would open a
string template.
-/
structure Encloses (inside value : List Char) : Prop where
  ends : ∀ rest, lex? ('"' :: (inside ++ '"' :: rest)) = some (inside, rest)
  reads : unescape inside = some value
  plain : ∀ c ∈ ['\n', '\r', '\t'], c ∉ inside
  escaped : ∀ front mark back, inside = front ++ mark :: back → mark ∈ ['"', '$'] →
    escapes front = true

/-- The escaped characters of a value are enclosed in its literal. -/
theorem encloses_escaped (value : List Char) : Encloses (value.flatMap escape) value where
  ends rest := scan_escaped value rest
  reads := unescape_escaped value
  plain c control := not_mem_escaped control value
  escaped front mark back split marks := by
    -- No escape is open where the literal starts.
    have start : escapes [] = false := rfl
    simpa using escapes_of_escaped_eq marks start split

/-- The characters of a literal, its quotes apart from what they enclose. -/
theorem toList_quote (value : String) :
    (quote value).toList = '"' :: (value.toList.flatMap escape ++ ['"']) :=
  String.toList_ofList

/-- Whether a text starts with a literal that is read as a value, in front of some rest. -/
def ReadsAs (text value rest : String) : Prop :=
  ∃ inside, lex? text.toList = some (inside, rest.toList) ∧ unescape inside = some value.toList

/-- The literal of a value is read as that value, whatever stands behind it. -/
theorem readsAs_quote_append (value rest : String) : ReadsAs (quote value ++ rest) value rest := by
  -- What is quoted is the escaped value, whatever is behind the second mark.
  have encloses := encloses_escaped value.toList
  refine ⟨value.toList.flatMap escape, ?_, encloses.reads⟩
  rw [String.toList_append, toList_quote, List.cons_append, List.append_assoc]
  exact encloses.ends rest.toList

/-- Values are told apart by their literals. -/
theorem quote_injective : Function.Injective quote := by
  intro value other same
  -- Behind a literal, nothing more is left to be read.
  have ends : encode value.toList ++ [] = encode other.toList ++ [] := by
    rw [List.append_nil, List.append_nil]
    exact String.ofList_injective same
  exact String.toList_injective (delimited_encode trivial trivial ends).1

end Navigation.Literal
