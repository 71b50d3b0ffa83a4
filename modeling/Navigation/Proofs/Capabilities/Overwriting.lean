import Navigation.Proofs.Capabilities
import Navigation.Proofs.Template.Report

/-! Libraries applied to values set before: what is overwritten, and what is left alone. -/

namespace Navigation

/-- Values are known from what is set and from what is kept. -/
theorem Values.eq_of_agree {first second : Values}
    (set : ∀ placeholder, first.value? placeholder = second.value? placeholder)
    (kept : ∀ part, first.keeps part = second.keeps part) : first = second := by
  -- Both of their fields are functions.
  cases first
  cases second
  exact congr (congrArg Values.mk (funext set)) (funext kept)

/-- A placeholder that is set has its new value, and all others have their old ones. -/
theorem Values.value?_set (values : Values) (placeholder other : Placeholder) (value : String) :
    (values.set placeholder value).value? other =
      if other = placeholder then some value else values.value? other :=
  rfl

namespace Capabilities

/-- The value that libraries give a placeholder, whatever it had before and whatever the host. -/
def fixedValue? (capabilities : Capabilities) : Placeholder → Option String
  | .defaultNavController => some capabilities.navController
  | .experimentalApi => some capabilities.experimentalApi.text
  | .animationDefaultParams => some capabilities.defaultParameters
  | .animationParamsToInner1 => some capabilities.forwardedArguments
  | .animationParamsToInner2 => some capabilities.forwardedArguments
  | .imports => none
  | .innerNavHost => none
  | .navGraphsDeclaration => none

/-- The values that the inner host is filled with. -/
def prepared (capabilities : Capabilities) (values : Values) : Values :=
  capabilities.keptSections (capabilities.fixedValues values)

/-- The inner host as it is set: filled, and without the blanks at its end. -/
def filledHost (capabilities : Capabilities) (plain animated : Template) (values : Values) :
    String :=
  String.ofList (trimRight ((capabilities.host plain animated).render values).toList)

variable (capabilities : Capabilities) (plain animated : Template) (values : Values)

/-- Before the inner host is filled, five placeholders have new values, and all others their old. -/
theorem value?_prepared (placeholder : Placeholder) :
    (capabilities.prepared values).value? placeholder =
      (capabilities.fixedValue? placeholder).or (values.value? placeholder) := by
  -- Keeping a section does not touch the values.
  have sections : (capabilities.prepared values).value? placeholder =
      (capabilities.fixedValues values).value? placeholder := by
    unfold prepared keptSections
    split <;> rfl
  rw [sections]
  cases placeholder <;> rfl

/-- Libraries set the inner host to what it is filled with by the values prepared for it. -/
theorem apply_eq : capabilities.apply plain animated values =
    ((capabilities.prepared values).set .innerNavHost
      (capabilities.filledHost plain animated (capabilities.prepared values)),
      capabilities.experimentalApi.imports) :=
  rfl

/-- Apart from the inner host, values are as they were prepared. -/
theorem value?_apply_of_ne {placeholder : Placeholder} (other : placeholder ≠ .innerNavHost) :
    (capabilities.apply plain animated values).1.value? placeholder =
      (capabilities.fixedValue? placeholder).or (values.value? placeholder) := by
  -- The host is set last, and leaves all other slots as prepared.
  rw [apply_eq, Values.value?_set, if_neg other, value?_prepared]

/-- What the inner host is filled with is what libraries set it to. -/
theorem value?_apply_innerNavHost :
    (capabilities.apply plain animated values).1.value? .innerNavHost =
      some (capabilities.filledHost plain animated (capabilities.prepared values)) := by
  -- The host is set last, so nothing is set over it.
  rw [apply_eq, Values.value?_set, if_pos rfl]

/-- The values that the inner host is filled with keep the sections that are kept in the end. -/
theorem keeps_prepared (part : Section) :
    (capabilities.prepared values).keeps part = (capabilities.material || values.keeps part) :=
  -- Setting the inner host does not touch the sections.
  capabilities.keeps_apply ⟨[]⟩ ⟨[]⟩ values part

/-- The inner host is filled alike by values that differ in the inner host only. -/
theorem filledHost_congr {first second : Values}
    (unused : (capabilities.host plain animated).uses .innerNavHost = false)
    (kept : ∀ part, first.keeps part = second.keeps part)
    (same : ∀ placeholder, placeholder ≠ .innerNavHost →
      first.value? placeholder = second.value? placeholder) :
    capabilities.filledHost plain animated first =
      capabilities.filledHost plain animated second := by
  -- Where they differ, the host does not look.
  have filled : (capabilities.host plain animated).render first =
      (capabilities.host plain animated).render second := by
    refine Template.render_congr kept fun placeholder used => ?_
    have other : placeholder ≠ .innerNavHost := by
      rintro rfl
      rw [unused] at used
      exact absurd used (by decide)
    simp only [Values.textOf, same placeholder other]
  rw [filledHost, filledHost, filled]

/--
Libraries that are applied later leave nothing of those applied earlier, whatever their hosts.

Sections are the exception, since nothing takes them away again.
-/
theorem apply_apply {earlier later : Capabilities} {earlierPlain earlierAnimated : Template}
    {plain animated : Template} (unused : (later.host plain animated).uses .innerNavHost = false)
    (sections : earlier.material = true → later.material = true) (values : Values) :
    later.apply plain animated (earlier.apply earlierPlain earlierAnimated values).1 =
      later.apply plain animated values := by
  let after := (earlier.apply earlierPlain earlierAnimated values).1
  -- The later libraries prepare the same values, but for the inner host.
  have same : ∀ placeholder, placeholder ≠ .innerNavHost →
      (later.prepared after).value? placeholder = (later.prepared values).value? placeholder := by
    intro placeholder other
    rw [value?_prepared, value?_prepared, value?_apply_of_ne _ _ _ _ other]
    -- A placeholder has a value from both libraries or from neither.
    cases placeholder <;> rfl
  have kept : ∀ part, (later.prepared after).keeps part = (later.prepared values).keeps part := by
    intro part
    rw [keeps_prepared, keeps_prepared, keeps_apply earlier]
    cases material : earlier.material with
    | false => rw [Bool.false_or]
    | true => rw [sections material, Bool.true_or, Bool.true_or]
  -- So the inner host is filled alike, and it is set whatever it was before.
  have host : later.filledHost plain animated (later.prepared after) =
      later.filledHost plain animated (later.prepared values) :=
    filledHost_congr later plain animated unused kept same
  have applied : (later.apply plain animated after).1 = (later.apply plain animated values).1 := by
    refine Values.eq_of_agree (fun placeholder => ?_) kept
    by_cases inner : placeholder = .innerNavHost
    · rw [inner, value?_apply_innerNavHost, value?_apply_innerNavHost, host]
    · have prepared := same placeholder inner
      rw [value?_prepared, value?_prepared] at prepared
      have set := value?_apply_of_ne later plain animated values inner
      exact (value?_apply_of_ne later plain animated after inner).trans (prepared.trans set.symm)
  exact Prod.ext applied rfl

/-- Values with the inner host put back to what it was before libraries were applied. -/
def beforeHost (before after : Values) : Values :=
  { after with
    value? := fun placeholder =>
      if placeholder = .innerNavHost then before.value? .innerNavHost
      else after.value? placeholder }

/-- The values prepared for the inner host are the final ones, with the inner host put back. -/
theorem prepared_eq_beforeHost :
    capabilities.prepared values =
      beforeHost values (capabilities.apply plain animated values).1 := by
  -- The two can only differ at the host, which is put back to what it was.
  refine Values.eq_of_agree (fun placeholder => ?_) fun _ => rfl
  rw [value?_prepared]
  show _ = if placeholder = .innerNavHost then _ else _
  split
  · next inner =>
    subst inner
    rfl
  · next inner => rw [value?_apply_of_ne _ _ _ _ inner]

/--
Applying libraries overwrites what was applied before, and leaves alone what is not theirs.

The inner host is filled while it still has its old value, which is why a host that has a slot for
itself is left out of the first two parts.
-/
theorem overwriting_apply :
    (∀ (earlier later : Capabilities) (plain animated : Template) (values : Values),
      (later.host plain animated).uses .innerNavHost = false →
      (earlier.material = true → later.material = true) →
      later.apply plain animated (earlier.apply plain animated values).1 =
        later.apply plain animated values) ∧
    (∀ (capabilities : Capabilities) (plain animated : Template) (values : Values),
      (capabilities.host plain animated).uses .innerNavHost = false →
      capabilities.apply plain animated (capabilities.apply plain animated values).1 =
        capabilities.apply plain animated values) ∧
    ∀ (capabilities : Capabilities) (plain animated : Template) (values : Values),
      let after := (capabilities.apply plain animated values).1
      after.value? .navGraphsDeclaration = values.value? .navGraphsDeclaration ∧
      after.value? .imports = values.value? .imports ∧
      (∀ part, after.keeps part = (capabilities.material || values.keeps part)) ∧
      (∀ placeholder value, capabilities.fixedValue? placeholder = some value →
        after.value? placeholder = some value) ∧
      after.value? .innerNavHost = some (String.ofList (trimRight
        ((capabilities.host plain animated).render (beforeHost values after)).toList)) := by
  refine ⟨fun _ _ _ _ values unused sections => apply_apply unused sections values,
    fun _ _ _ values unused => apply_apply unused id values, ?_⟩
  intro capabilities plain animated values after
  refine ⟨?declaration, ?imports, ?sections, ?fixed, ?host⟩
  case declaration => exact value?_apply_of_ne _ _ _ _ (by decide)
  case imports => exact value?_apply_of_ne _ _ _ _ (by decide)
  case sections => exact keeps_apply capabilities plain animated values
  case fixed =>
    intro placeholder value fixed
    -- The inner host is not among the fixed values.
    have other : placeholder ≠ .innerNavHost := by
      rintro rfl
      exact absurd fixed nofun
    rw [value?_apply_of_ne _ _ _ _ other, fixed, Option.some_or]
  case host =>
    rw [value?_apply_innerNavHost, prepared_eq_beforeHost capabilities plain animated values]
    rfl

/-- A plain host with a slot for itself is used first, and then an animated one without. -/
theorem overwriting_apply_of_stale_host :
    let earlier : Capabilities := { material := true }
    let later : Capabilities := { animation := true, material := true }
    let values := (Values.empty.set .innerNavHost "stale ").set .imports "import a"
    ∃ plain animated,
      Template.parse "[INNER_NAV_HOST]Plain\n" = .ok plain ∧
      Template.parse "\tAnimated[SCAFFOLD_START][IMPORTS_BLOCK][SCAFFOLD_END] \n" = .ok animated ∧
      (later.host plain animated).uses .innerNavHost = false ∧
      (earlier.material = true → later.material = true) ∧
      (earlier.apply plain animated values).1.value? .innerNavHost = some "stale Plain" ∧
      later.apply plain animated (earlier.apply plain animated values).1 =
        later.apply plain animated values ∧
      (later.apply plain animated values).1.value? .innerNavHost = some "\tAnimatedimport a" := by
  intro earlier later values
  refine ⟨⟨[.item (.slot .innerNavHost []), .item (.literal "Plain\n".toList)]⟩,
    ⟨[.item (.literal "\tAnimated".toList), .block .scaffold [.slot .imports ['\t']],
      .item (.literal " \n".toList)]⟩, ?_⟩
  refine ⟨by decide +kernel, by decide +kernel, by decide +kernel, by decide, ?_, ?_, ?_⟩
  · -- The plain host still sees what was set for it before.
    rw [(overwriting_apply.2.2 earlier _ _ values).2.2.2.2]
    decide +kernel
  · exact overwriting_apply.1 earlier later _ _ values (by decide +kernel) (by decide)
  · rw [(overwriting_apply.2.2 later _ _ values).2.2.2.2]
    decide +kernel

end Capabilities

end Navigation
