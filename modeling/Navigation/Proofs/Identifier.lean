import Navigation.Identifier

/-! What an identifier can be made of: ASCII letters, and nothing else. -/

namespace Navigation.Identifier

/-- Only letters are kept of a text. -/
theorem isAlpha_of_mem_letters {upper : Char → Char} {gap : Bool} {text : List Char} {c : Char}
    (kept : c ∈ letters upper gap text) : c.isAlpha = true := by
  -- Each character is tested as it would be written, after its change of case.
  induction text generalizing gap with
  | nil => simp [letters] at kept
  | cons d rest ih =>
    rw [letters] at kept
    generalize (if gap then upper d else d) = letter at kept
    split at kept
    · next letter =>
      rcases List.mem_cons.1 kept with rfl | kept
      · exact letter
      · exact ih kept
    · exact ih kept

/-- The identifier of a route has letters only, whatever the table of uppercases. -/
theorem isAlpha_of_mem_ofRouteBy {uppercase : Char → List Char} {route : String} {c : Char}
    (kept : c ∈ (ofRouteBy uppercase route).toList) : c.isAlpha = true := by
  -- An identifier is made up of the letters that are kept.
  rw [ofRouteBy, String.toList_ofList] at kept
  exact isAlpha_of_mem_letters kept

/-- The identifier of a route has letters only. -/
theorem isAlpha_of_mem_ofRoute {route : String} {c : Char} (kept : c ∈ (ofRoute route).toList) :
    c.isAlpha = true :=
  isAlpha_of_mem_ofRouteBy kept

/-- What is no letter is not in an identifier. -/
theorem not_mem_ofRoute {c : Char} (other : c.isAlpha = false) (route : String) :
    c ∉ (ofRoute route).toList :=
  fun member => absurd (isAlpha_of_mem_ofRoute member) (by simp [other])

/-- Identifiers have no brackets. -/
theorem bracket_not_mem_ofRoute (route : String) : '[' ∉ (ofRoute route).toList :=
  not_mem_ofRoute (by decide) route

end Navigation.Identifier
