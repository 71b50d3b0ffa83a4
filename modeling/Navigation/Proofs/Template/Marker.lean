import Navigation.Proofs.Token.Laws
import Navigation.Template.Marker

/-! The known tokens are read wherever their texts stand, and nowhere else. -/

namespace Navigation.Marker

/-- Every marker is listed. -/
theorem mem_all (marker : Marker) : marker ∈ all := by
  -- There are eight slots and the two marks of the one section.
  rcases marker with placeholder | opened | closed
  · cases placeholder <;> decide
  · cases opened; decide
  · cases closed; decide

/-- Every marker is named as tokens are. -/
theorem isName_name (marker : Marker) : Token.isName marker.name.toList = true := by
  -- There are ten names to look at.
  have named : ∀ marker ∈ all, Token.isName marker.name.toList = true := by decide
  exact named marker (mem_all marker)

/-- No two markers share a name. -/
theorem ofName?_name (marker : Marker) : ofName? marker.name = some marker := by
  -- There are few markers, and each is looked up by its own name.
  have known : ∀ marker ∈ all, ofName? marker.name = some marker := by decide
  exact known marker (mem_all marker)

/-- A marker's text starts with a bracket. -/
theorem text_eq_cons (marker : Marker) : ∃ tail, marker.text = '[' :: tail :=
  ⟨marker.name.toList ++ [']'], rfl⟩

/-- A marker stands on one line. -/
theorem newline_not_mem_text (marker : Marker) : '\n' ∉ marker.text := by
  -- Again the few markers are looked through.
  have oneLine : ∀ marker ∈ all, '\n' ∉ marker.text := by decide
  exact oneLine marker (mem_all marker)

/-- A marker opens a text exactly if its own text stands at the front. -/
theorem opening?_eq_some_iff {text after : List Char} {marker : Marker} :
    opening? text = some (marker, after) ↔ text = marker.text ++ after := by
  constructor
  · exact eq_of_opening?
  · -- The token at the front has the marker's name, and the name finds the marker.
    rintro rfl
    have token : Token.opening? (marker.text ++ after) = some (marker.name.toList, after) :=
      Token.opening?_eq_some_iff.2 ⟨isName_name marker, rfl⟩
    simp [opening?, token, String.ofList_toList, ofName?_name]

/-- Only one marker can stand at the front of a text. -/
theorem eq_of_text_append {first second : Marker} {rest after : List Char}
    (same : first.text ++ rest = second.text ++ after) : first = second ∧ rest = after := by
  -- Reading the common text gives either marker.
  have one := opening?_eq_some_iff.2 (Eq.refl (first.text ++ rest))
  have two := opening?_eq_some_iff.2 same
  rw [one] at two
  simpa using two

/-- No marker opens a text that starts with none of their texts. -/
theorem opening?_eq_none_iff {text : List Char} :
    opening? text = none ↔ ∀ marker : Marker, ¬ marker.text <+: text := by
  constructor
  · -- A marker's text at the front would have been read.
    rintro absent marker ⟨after, rfl⟩
    simp [opening?_eq_some_iff.2 (Eq.refl (marker.text ++ after))] at absent
  · -- What is read is some marker's text at the front.
    intro absent
    cases opened : opening? text with
    | none => rfl
    | some found =>
      exact absurd ⟨found.2, (eq_of_opening? opened).symm⟩ (absent found.1)

end Navigation.Marker
