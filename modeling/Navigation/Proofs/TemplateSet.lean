import Navigation.Proofs.Outcome
import Navigation.TemplateSet

/-! What reading a set of templates amounts to: each of them is read on its own. -/

namespace Navigation.TemplateSet

open Outcome (bind_eq_ok_iff error? error?_bind_eq_or)

/-- A set is read exactly if its templates are, the aggregate having what is required of it. -/
theorem parse_eq_ok_iff {sources : TemplateSources} {templates : TemplateSet} :
    parse sources = .ok templates ↔
      Template.parse sources.aggregate = .ok templates.aggregate ∧
        templates.aggregate.require required = .ok () ∧
        Template.parse sources.plainHost = .ok templates.plainHost ∧
        Template.parse sources.animatedHost = .ok templates.animatedHost ∧
        templates.sealedDestination = sources.sealedDestination ∧
        templates.imports = sources.imports ∧
        templates.animatedImports = sources.animatedImports := by
  rw [parse]
  -- Each reading hands its template on to the next one.
  constructor
  · intro read
    obtain ⟨aggregate, first, read⟩ := bind_eq_ok_iff.1 read
    obtain ⟨⟨⟩, complete, read⟩ := bind_eq_ok_iff.1 read
    obtain ⟨plain, second, read⟩ := bind_eq_ok_iff.1 read
    obtain ⟨animated, third, read⟩ := bind_eq_ok_iff.1 read
    cases read
    exact ⟨first, complete, second, third, rfl, rfl, rfl⟩
  · rintro ⟨first, complete, second, third, sealedSame, importsSame, animatedSame⟩
    rw [first, second, third]
    show (templates.aggregate.require required >>= fun _ => _) = _
    rw [complete, ← sealedSame, ← importsSame, ← animatedSame]
    rfl

/-- A set cannot be read as the first of its templates that cannot, the aggregate checked at once. -/
theorem error?_parse (sources : TemplateSources) :
    error? (parse sources) =
      (error? (Template.parse sources.aggregate)).or
        (((Template.parse sources.aggregate).toOption.bind fun template =>
            error? (template.require required)).or
          ((error? (Template.parse sources.plainHost)).or
            (error? (Template.parse sources.animatedHost)))) := by
  refine error?_bind_eq_or fun aggregate first => ?_
  rw [first, Except.toOption, Option.bind_some]
  refine error?_bind_eq_or fun _ _ => ?_
  refine error?_bind_eq_or fun _ _ => ?_
  -- The last one has no step behind it that could fail.
  refine (error?_bind_eq_or fun _ _ => ?_).trans Option.or_none
  rfl

end Navigation.TemplateSet
