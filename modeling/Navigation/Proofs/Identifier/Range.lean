import Navigation.Proofs.Identifier
import Navigation.Proofs.Identifier.Rewriting

/-! Which routes are their own identifiers, and which have none at all. -/

namespace Navigation.Identifier

/-- Whether a table of uppercases takes letters to letters. -/
def KeepsLetters (uppercase : Char → List Char) : Prop :=
  ∀ c, c.isAlpha = true → (single uppercase c).isAlpha = true

/-- Whether the uppercase of a character is a single one, and a letter. -/
def BecomesLetter (uppercase : Char → List Char) (c : Char) : Prop :=
  ∃ letter, uppercase c = [letter] ∧ letter.isAlpha = true

/-- A text that has no letter, and none that would become one but for its first character. -/
structure Letterless (uppercase : Char → List Char) (text : List Char) : Prop where
  absent : ∀ c ∈ text, c.isAlpha = false
  behind : ∀ c ∈ text.tail, ¬ BecomesLetter uppercase c

variable {uppercase : Char → List Char}

/-- The uppercase of a character can be looked up. -/
instance (c : Char) : Decidable (BecomesLetter uppercase c) :=
  match found : uppercase c with
  | [letter] => decidable_of_iff (letter.isAlpha = true) (by simp [BecomesLetter, found])
  | [] => .isFalse (by simp [BecomesLetter, found])
  | _ :: _ :: _ => .isFalse (by simp [BecomesLetter, found])

/-- Whether a text is letterless can be found out character by character. -/
instance (text : List Char) : Decidable (Letterless uppercase text) :=
  decidable_of_iff
    (text.all (fun c => !c.isAlpha) ∧ text.tail.all fun c => !decide (BecomesLetter uppercase c))
    ⟨fun ⟨absent, behind⟩ => ⟨by simpa using absent, by simpa using behind⟩,
      fun ⟨absent, behind⟩ => ⟨by simpa using absent, by simpa using behind⟩⟩

/-- What is put into uppercase is a letter if it becomes one, or is one and stays as it is. -/
theorem isAlpha_single_iff {c : Char} (other : c.isAlpha = false) :
    (single uppercase c).isAlpha = true ↔ BecomesLetter uppercase c := by
  rw [single]
  split
  · next one found => simp [BecomesLetter, found]
  · next several =>
    -- Several characters, or none, are not taken, and the character itself is no letter.
    simp only [other, Bool.false_eq_true, false_iff]
    rintro ⟨letter, found, -⟩
    exact several letter found

/-- Letters are ASCII characters. -/
theorem toNat_lt_of_isAlpha {c : Char} (letter : c.isAlpha = true) : c.toNat < 128 := by
  -- Capital letters end with one letter, and small ones with another.
  rcases Bool.or_eq_true_iff.1 letter with capital | small
  · have last : c.val ≤ 'Z'.val := (of_decide_eq_true capital).2
    exact Nat.lt_of_le_of_lt (UInt32.le_iff_toNat_le.1 last) (by decide)
  · have last : c.val ≤ 'z'.val := of_decide_eq_true (Bool.and_eq_true_iff.1 small).2
    exact Nat.lt_of_le_of_lt (UInt32.le_iff_toNat_le.1 last) (by decide)

/-- The table that is used takes letters to letters. -/
theorem keepsLetters_table : KeepsLetters table := by
  -- All letters are among the first characters, which are tried one by one.
  have tried : ∀ n < 128,
      (Char.ofNat n).isAlpha = true → (upper (Char.ofNat n)).isAlpha = true := by
    decide
  intro c letter
  have same := tried c.toNat (toNat_lt_of_isAlpha letter)
  rw [Char.ofNat_toNat] at same
  exact same letter

/-- A text of letters is left as it is. -/
theorem letters_of_isAlpha {upper : Char → Char} {text : List Char}
    (alpha : ∀ c ∈ text, c.isAlpha = true) : letters upper false text = text := by
  -- No gap arises, so nothing is put into uppercase.
  induction text with
  | nil => rfl
  | cons c rest ih =>
    obtain ⟨letter, behind⟩ := List.forall_mem_cons.1 alpha
    simp [letters, letter, ih behind]

/-- Behind a gap, nothing is kept exactly if no character is a letter once put into uppercase. -/
theorem letters_gap_eq_nil_iff {upper : Char → Char} {text : List Char} :
    letters upper true text = [] ↔ ∀ c ∈ text, (upper c).isAlpha = false := by
  -- A character that is lost leaves the gap open.
  induction text with
  | nil => simp [letters]
  | cons c rest ih =>
    cases letter : (upper c).isAlpha <;> simp [letters, letter, ih]

/-- Nothing is kept exactly of the texts that are letterless. -/
theorem letters_eq_nil_iff (keeps : KeepsLetters uppercase) {text : List Char} :
    letters (single uppercase) false text = [] ↔ Letterless uppercase text := by
  cases text with
  | nil => exact iff_of_true rfl ⟨by simp, by simp⟩
  | cons c rest =>
    cases first : c.isAlpha with
    | true =>
      -- A letter at the start is kept.
      refine iff_of_false (by simp [letters, first]) fun letterless => ?_
      simp [letterless.absent c List.mem_cons_self] at first
    | false =>
      -- The first character leaves a gap, and all others are seen behind one.
      have behind : letters (single uppercase) false (c :: rest) =
          letters (single uppercase) true rest := by simp [letters, first]
      rw [behind, letters_gap_eq_nil_iff]
      constructor
      · intro none
        have others : ∀ d ∈ rest, d.isAlpha = false := fun d member =>
          Bool.eq_false_iff.2 fun letter => by simpa [none d member] using keeps d letter
        refine ⟨List.forall_mem_cons.2 ⟨first, others⟩, fun d member becomes => ?_⟩
        have letter := (isAlpha_single_iff (others d member)).2 becomes
        simp [none d member] at letter
      · intro letterless d member
        have other := letterless.absent d (List.mem_cons_of_mem c member)
        exact Bool.eq_false_iff.2 fun letter =>
          letterless.behind d member ((isAlpha_single_iff other).1 letter)

/-- A route without anything to offer gives no identifier, and only such a route does. -/
theorem ofRouteBy_eq_empty_iff (keeps : KeepsLetters uppercase) (route : String) :
    ofRouteBy uppercase route = "" ↔ Letterless uppercase route.toList := by
  -- It is empty exactly if no letter is kept.
  rw [ofRouteBy, ← String.toList_inj, String.toList_ofList, String.toList_empty,
    letters_eq_nil_iff keeps]

/-- A route is its own identifier exactly if it has letters only. -/
theorem ofRouteBy_eq_self_iff (route : String) :
    ofRouteBy uppercase route = route ↔ ∀ c ∈ route.toList, c.isAlpha = true := by
  constructor
  · -- The identifier has letters only, so the route has if it is the same.
    intro same c member
    rw [← same] at member
    exact isAlpha_of_mem_ofRouteBy member
  · -- Letters are kept as they are until something else is met.
    intro alpha
    rw [ofRouteBy, letters_of_isAlpha alpha, String.ofList_toList]

/-- A table that agrees with the one that is used takes letters to letters as well. -/
theorem Agrees.keepsLetters (agrees : Agrees uppercase) : KeepsLetters uppercase := by
  -- On a letter it says what the table says, and the table keeps letters.
  intro c letter
  have kept := keepsLetters_table c letter
  rwa [agrees c (.inr kept)]

/-- The graph at a route has no identifier exactly if the route is letterless. -/
theorem ofRoute_eq_empty_iff (agrees : Agrees uppercase) (route : String) :
    ofRoute route = "" ↔ Letterless uppercase route.toList := by
  -- Both tables make the same identifier.
  rw [← ofRouteBy_eq_empty_iff agrees.keepsLetters, ofRoute, ofRouteBy, ofRouteBy,
    letters_congr agrees]

end Navigation.Identifier
