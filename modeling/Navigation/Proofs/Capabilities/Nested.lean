import Navigation.Proofs.Capabilities.Overwriting
import Navigation.Proofs.Template.Indented
import Navigation.Proofs.Template.Slots

/-! Values in the inner host: placed in the aggregate with it, they stand at both indents. -/

namespace Navigation

section

variable {inner : List Char}

/-- The blanks at the end of an indented value are those of the value. -/
theorem trimRight_indented (blank : IsIndent inner) (value : List Char) :
    trimRight (indented inner value) = indented inner (trimRight value) := by
  obtain ⟨tail, whole, lost⟩ := exists_eq_trimRight_append value
  -- Behind what is left, there is only an indent with blanks behind it.
  have behind : ∀ c ∈ seam inner (trimRight value) tail ++ indented inner tail,
      isBlank c = true := by
    intro c member
    rcases List.mem_append.1 member with member | member
    · unfold seam at member
      split at member
      · exact blank.isBlank c member
      · exact absurd member List.not_mem_nil
    · exact (mem_of_mem_indented member).elim (blank.isBlank c) (lost c)
  -- An indented text ends in the character that the text ends in.
  have ends : trimRight (indented inner (trimRight value)) = indented inner (trimRight value) := by
    refine trimRight_eq_self fun c last => ?_
    rw [getLast?_indented] at last
    exact not_isBlank_of_getLast?_trimRight last
  -- So trimming loses the indents of what is lost, and nothing else.
  have left : trimRight (indented inner value) = trimRight (indented inner (trimRight value)) := by
    conv => lhs; rw [whole, indented_append]
    rw [trimRight_append, trimRight_eq_nil behind, trimBefore, if_pos (trimRight_eq_nil behind),
      List.append_nil]
  rw [left, ends]

/-- What is left of an indented value is what is left of the value, indented. -/
theorem trimBefore_indented (blank : IsIndent inner) (value behind : List Char) :
    trimBefore (indented inner value) behind = indented inner (trimBefore value behind) := by
  -- Blanks are only lost at the end, where an indent leaves blank lines as they are.
  unfold trimBefore
  split
  · exact trimRight_indented blank value
  · rfl

/-- What is left in front of an indented value is what is left in front of the value. -/
theorem trimBefore_indented_append (blank : IsIndent inner) (before value behind : List Char) :
    trimBefore before (indented inner value ++ behind) = trimBefore before (value ++ behind) := by
  -- Nothing is left of one of the two exactly if nothing is left of the other.
  have same : trimRight (indented inner value ++ behind) = [] ↔
      trimRight (value ++ behind) = [] := by
    rw [trimRight_append, trimRight_append, trimBefore_indented blank, List.append_eq_nil_iff,
      List.append_eq_nil_iff, indented_eq_nil_iff]
  simp only [trimBefore, same]

end

/-- A value between two texts at an indent, with the lines of the value at one more. -/
def nestedBetween (outer inner before value behind : List Char) : List Char :=
  indented outer before ++ (seam outer before (value ++ behind) ++
    (indented (outer ++ inner) value ++ (seam outer value behind ++ indented outer behind)))

/-- A value that is indented between two texts is nested between them once all is indented. -/
theorem indented_around {outer inner : List Char} (outside : IsIndent outer)
    (inside : IsIndent inner) (before value behind : List Char) :
    indented outer (before ++ (indented inner value ++ behind)) =
      nestedBetween outer inner before value behind := by
  -- The value starts and ends as it does when it is indented, so the seams are the same.
  have front : seam outer before (indented inner value ++ behind) =
      seam outer before (value ++ behind) := by
    rw [seam, seam, opensEmptyLine_indented_append]
  have back : seam outer (indented inner value) behind = seam outer value behind := by
    rw [seam, seam, getLast?_indented]
  rw [indented_append, indented_append, front, back, indented_indented outside inside,
    nestedBetween]

namespace Capabilities

/-- What the inner host's slot contributes, with one of the host's own slots told from the rest. -/
theorem render_innerNavHost {capabilities : Capabilities} {plain animated : Template}
    {values filled : Values} {outer inner : List Char} {placeholder : Placeholder}
    {earlier later : List Item} (outside : IsIndent outer) (inside : IsIndent inner)
    (given : filled.value? .innerNavHost =
      (capabilities.apply plain animated values).1.value? .innerNavHost)
    (listed : (capabilities.host plain animated).items (capabilities.prepared values).keeps =
      earlier ++ .slot placeholder inner :: later) :
    let write := Item.render (capabilities.prepared values)
    let value := (capabilities.prepared values).textOf placeholder
    let before := earlier.flatMap write
    let behind := later.flatMap write
    (Item.slot .innerNavHost outer).render filled =
      nestedBetween outer inner (trimBefore before (value ++ behind)) (trimBefore value behind)
        (trimRight behind) := by
  intro write value before behind
  have host : ((capabilities.host plain animated).render (capabilities.prepared values)).toList =
      before ++ (indented inner value ++ behind) := by
    rw [Template.render_eq_items, listed, List.flatMap_append, List.flatMap_cons]
    rfl
  -- The blanks at the end of the host are lost before it is put in.
  rw [Item.render, Values.textOf, given, value?_apply_innerNavHost]
  simp only [filledHost, String.toList_ofList]
  rw [host, trimRight_append, trimRight_append, trimBefore_indented_append inside,
    trimBefore_indented inside, indented_around outside inside]

/--
Indenting a value can be undone, and done inside of an indented value it adds up.

So the lines of a value in the inner host stand at the indents of both slots, that of the host in
the aggregate and that of the value in the host. Blanks at the end of the host are lost before.
-/
theorem indents_add_up :
    (∀ (indent value : List Char), IsIndent indent →
      let lines := cutAt '\n' value
      let indentedLines := cutAt '\n' (indented indent value)
      indentedLines = hangLines indent lines ∧
      indentedLines.length = lines.length ∧
      indentedLines.head? = lines.head? ∧
      ∀ place : Nat, lines[place]? = some [] ↔ indentedLines[place]? = some []) ∧
    (∀ indent : List Char, IsIndent indent → Function.Injective (indented indent)) ∧
    (∀ outer inner value : List Char, IsIndent outer → IsIndent inner →
      indented outer (indented inner value) = indented (outer ++ inner) value) ∧
    ∀ (capabilities : Capabilities) (plain animated aggregate : Template) (values filled : Values)
      (outer inner : List Char) (placeholder : Placeholder)
      (first second earlier later : List Item),
      IsIndent outer → IsIndent inner →
      filled.value? .innerNavHost =
        (capabilities.apply plain animated values).1.value? .innerNavHost →
      aggregate.items filled.keeps = first ++ .slot .innerNavHost outer :: second →
      (capabilities.host plain animated).items (capabilities.prepared values).keeps =
        earlier ++ .slot placeholder inner :: later →
      let value := (capabilities.prepared values).textOf placeholder
      let before := earlier.flatMap (Item.render (capabilities.prepared values))
      let behind := later.flatMap (Item.render (capabilities.prepared values))
      (aggregate.render filled).toList =
        first.flatMap (Item.render filled) ++
          (nestedBetween outer inner (trimBefore before (value ++ behind)) (trimBefore value behind)
            (trimRight behind) ++ second.flatMap (Item.render filled)) := by
  refine ⟨?lines, fun indent => indented_injective, fun outer inner value outside inside =>
    indented_indented outside inside value, ?placed⟩
  case lines =>
    -- Line by line, only the indent is put in front.
    intro indent value blank lines indentedLines
    have same : indentedLines = hangLines indent lines := cutAt_indented blank value
    rw [same]
    exact ⟨rfl, length_hangLines indent lines, head?_hangLines indent lines,
      fun place => getElem?_hangLines_eq_nil_iff.symm⟩
  case placed =>
    -- The host is one of the values, so it is indented once more as a whole.
    intro capabilities plain animated aggregate values filled outer inner placeholder first second
      earlier later outside inside given split listed value before behind
    rw [Template.render_eq_items, split, List.flatMap_append, List.flatMap_cons,
      render_innerNavHost outside inside given listed]

/-- A value with an empty line, in a host with blanks at its end, in an aggregate. -/
theorem indents_add_up_of_blank_lines :
    let outer := [' ', ' ']
    let inner := ['\t']
    let values := Values.empty.set .imports "a\n\nb"
    ∃ host aggregate,
      Template.parse "x\n\t[IMPORTS_BLOCK]\n \n" = .ok host ∧
      Template.parse "(\n  [INNER_NAV_HOST]\n)" = .ok aggregate ∧
      IsIndent outer ∧ IsIndent inner ∧
      cutAt '\n' (indented inner "a\n\nb".toList) = [['a'], [], ['\t', 'b']] ∧
      Function.Injective (indented inner) ∧
      indented outer (indented inner "a\n\nb".toList) = "a\n\n  \tb".toList ∧
      (aggregate.render (apply {} host host values).1).toList =
        "(\n  x\n  \ta\n\n  \tb\n)".toList := by
  intro outer inner values
  let host : Template :=
    ⟨[.item (.literal "x\n\t".toList), .item (.slot .imports inner),
      .item (.literal "\n \n".toList)]⟩
  let aggregate : Template :=
    ⟨[.item (.literal "(\n  ".toList), .item (.slot .innerNavHost outer),
      .item (.literal "\n)".toList)]⟩
  have outside : IsIndent outer := by decide
  have inside : IsIndent inner := by decide
  obtain ⟨lines, injective, added, placed⟩ := indents_add_up
  -- The host ends in a blank line, which is trimmed before it is indented.
  refine ⟨host, aggregate, by decide +kernel, by decide +kernel, outside, inside, ?_,
    injective inner inside, ?_, ?_⟩
  · rw [(lines inner _ inside).1]
    decide +kernel
  · rw [added outer inner _ outside inside]
    decide +kernel
  · rw [placed {} host host aggregate values _ outer inner .imports [.literal "(\n  ".toList]
      [.literal "\n)".toList] [.literal "x\n\t".toList] [.literal "\n \n".toList] outside inside
      rfl (by decide +kernel) (by decide +kernel)]
    decide +kernel

end Capabilities

end Navigation
