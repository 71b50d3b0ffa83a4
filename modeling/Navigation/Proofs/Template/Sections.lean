import Navigation.Proofs.Template.Loop

/-! How the sections of a text are matched, as one induction over the pieces of the text. -/

namespace Navigation.Template

open Outcome (map_eq_ok_iff)

/-- A character put in front of items comes in front of whatever they are written as. -/
theorem flatMap_item_consChar {write : Item → List Char}
    (copied : ∀ text, write (.literal text) = text) (c : Char) (items : List Item) :
    (Item.consChar c items).flatMap write = c :: items.flatMap write := by
  -- It joins a literal that stands in front, or becomes one.
  unfold Item.consChar
  split <;> simp [copied]

/-- A character put in front of segments comes in front of whatever they are written as. -/
theorem flatMap_consChar {write : Segment → List Char}
    (copied : ∀ text, write (.item (.literal text)) = text) (c : Char) (segments : List Segment) :
    (Segment.consChar c segments).flatMap write = c :: segments.flatMap write := by
  -- The character is in front of a literal, which is written as it is.
  unfold Segment.consChar
  split <;> simp [copied]

/--
What holds of all pieces and their segments, once each step of the matching keeps it.

Outside and inside of a section call each other, so `P` and `Q` are carried along together: `P`
relates the pieces to the segments, and `Q` to the open section's body and the segments behind it.
-/
theorem matched_induction {P : List Piece → List Segment → Prop}
    {Q : Section → List Piece → List Item → List Segment → Prop} (nil : P [] [])
    (char : ∀ c rest segments, outside rest = .ok segments → P rest segments →
      P (.char c :: rest) (Segment.consChar c segments))
    (slot : ∀ placeholder indent rest segments, P rest segments →
      P (.mark (.slot placeholder) indent :: rest) (.item (.slot placeholder indent) :: segments))
    (opens : ∀ name indent rest body after, Q name rest body after →
      P (.mark (.opens name) indent :: rest) (.block name body :: after))
    (charInside : ∀ name c rest body after, inside name rest = .ok (body, after) →
      Q name rest body after → Q name (.char c :: rest) (Item.consChar c body) after)
    (slotInside : ∀ name placeholder indent rest body after, Q name rest body after →
      Q name (.mark (.slot placeholder) indent :: rest) (.slot placeholder indent :: body) after)
    (closes : ∀ name indent rest after, P rest after →
      Q name (.mark (.closes name) indent :: rest) [] after) (pieces : List Piece) :
    (∀ segments, outside pieces = .ok segments → P pieces segments) ∧
      ∀ name body after, inside name pieces = .ok (body, after) → Q name pieces body after := by
  induction pieces with
  | nil =>
    constructor
    · intro segments matched
      simp only [outside, Except.ok.injEq] at matched
      subst matched
      exact nil
    · -- The text must not end inside a section.
      intro name body after matched
      simp [inside] at matched
  | cons piece rest ih =>
    obtain ⟨ihOutside, ihInside⟩ := ih
    constructor
    · -- Outside, a section may open, but none can close.
      intro segments matched
      rcases piece with c | ⟨placeholder | opened | closed, indent⟩
      · simp only [outside, map_eq_ok_iff] at matched
        obtain ⟨behind, found, rfl⟩ := matched
        exact char c rest behind found (ihOutside behind found)
      · simp only [outside, map_eq_ok_iff] at matched
        obtain ⟨behind, found, rfl⟩ := matched
        exact slot placeholder indent rest behind (ihOutside behind found)
      · simp only [outside, map_eq_ok_iff] at matched
        obtain ⟨⟨body, behind⟩, found, rfl⟩ := matched
        exact opens opened indent rest body behind (ihInside opened body behind found)
      · simp [outside] at matched
    · -- Inside, the open section may close, but none can open.
      intro name body after matched
      rcases piece with c | ⟨placeholder | opened | closed, indent⟩
      · simp only [inside, map_eq_ok_iff] at matched
        obtain ⟨⟨items, behind⟩, found, same⟩ := matched
        simp only [Prod.mk.injEq] at same
        obtain ⟨rfl, rfl⟩ := same
        exact charInside name c rest items behind found (ihInside name items behind found)
      · simp only [inside, map_eq_ok_iff] at matched
        obtain ⟨⟨items, behind⟩, found, same⟩ := matched
        simp only [Prod.mk.injEq] at same
        obtain ⟨rfl, rfl⟩ := same
        exact slotInside name placeholder indent rest items behind
          (ihInside name items behind found)
      · simp [inside] at matched
      · rw [inside] at matched
        split at matched
        · next ends =>
          obtain ⟨behind, found, same⟩ := map_eq_ok_iff.1 matched
          simp only [Prod.mk.injEq] at same
          obtain ⟨rfl, rfl⟩ := same
          subst ends
          exact closes closed indent rest behind (ihOutside behind found)
        · simp at matched

end Navigation.Template
