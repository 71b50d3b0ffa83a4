import Navigation.Capabilities
import Navigation.Proofs.Template.Free
import Navigation.Proofs.Text.Blank

/-! What the libraries of a build decide of a template: sections, and values without brackets. -/

namespace Navigation

namespace Capabilities

open Token (bracket_not_mem_append bracket_not_mem_intercalate)

/-- Libraries decide the sections of a template as well: without the material one, none is added. -/
theorem keeps_apply (capabilities : Capabilities) (plain animated : Template) (values : Values)
    (part : Section) :
    (capabilities.apply plain animated values).1.keeps part =
      (capabilities.material || values.keeps part) := by
  -- The one section there is is kept for the material style, and as it was else.
  cases part
  cases material : capabilities.material <;>
    simp [apply, keptSections, material, Values.set, Values.keep, fixedValues]

/-- The type of a transition has no bracket but those of its result. -/
theorem bracket_not_mem_transitionType {result : String} (absent : '[' ∉ result.toList) :
    '[' ∉ (transitionType result).toList := by
  -- The transition is wrapped around the result's type.
  unfold transitionType
  exact bracket_not_mem_append (bracket_not_mem_append (by decide +kernel) absent) (by decide)

/-- The additional parameters of the host have no brackets. -/
theorem bracket_not_mem_defaultParameters (capabilities : Capabilities) :
    '[' ∉ capabilities.defaultParameters.toList := by
  have enter : '[' ∉ (transitionType "EnterTransition").toList :=
    bracket_not_mem_transitionType (by decide)
  have exit : '[' ∉ (transitionType "ExitTransition").toList :=
    bracket_not_mem_transitionType (by decide)
  unfold defaultParameters
  split
  · -- Four types stand between five texts that are given.
    apply bracket_not_mem_append _ (by decide +kernel)
    apply bracket_not_mem_append _ exit
    apply bracket_not_mem_append _ (by decide +kernel)
    apply bracket_not_mem_append _ enter
    apply bracket_not_mem_append _ (by decide +kernel)
    apply bracket_not_mem_append _ exit
    apply bracket_not_mem_append _ (by decide +kernel)
    exact bracket_not_mem_append (by decide +kernel) enter
  · decide

/-- The arguments for the inner host have no brackets. -/
theorem bracket_not_mem_forwardedArguments (capabilities : Capabilities) :
    '[' ∉ capabilities.forwardedArguments.toList := by
  -- The names are joined by commas, or there are none.
  unfold forwardedArguments
  split
  · exact bracket_not_mem_intercalate (by decide) (by decide +kernel)
  · decide

/-- The values that do not depend on a template add no brackets to those set before. -/
theorem all_fixedValues (capabilities : Capabilities) {values : Values}
    (all : values.All ('[' ∉ ·)) : (capabilities.fixedValues values).All ('[' ∉ ·) := by
  -- Each of the values that are set has no bracket.
  have controller : '[' ∉ capabilities.navController.toList := by
    unfold navController
    split <;> decide
  have experimental : '[' ∉ capabilities.experimentalApi.text.toList := by
    unfold experimentalApi
    split <;> decide
  have parameters := capabilities.bracket_not_mem_defaultParameters
  have arguments := capabilities.bracket_not_mem_forwardedArguments
  exact ((((all.set controller _).set experimental _).set parameters _).set arguments _).set
    arguments _

/-- The annotation of the host is imported by a name without brackets. -/
theorem bracket_not_mem_of_mem_imports (capabilities : Capabilities) :
    ∀ name ∈ capabilities.experimentalApi.imports, '[' ∉ name.toList := by
  unfold experimentalApi
  split
  · -- There is one name in the set.
    intro name member
    have same : name = experimentalAnnotation := by
      simpa [Fragment.withImport, Fragment.plain] using member
    subst same
    decide +kernel
  · intro name member
    simp [Fragment.plain] at member

/--
No value that the libraries decide has a bracket, the inner host among them.

Of the two templates of the inner host, only the one that is used has to be without brackets.
-/
theorem all_apply {capabilities : Capabilities} {plainSource animatedSource : String}
    {plain animated : Template} (readPlain : Template.parse plainSource = .ok plain)
    (readAnimated : Template.parse animatedSource = .ok animated)
    (known : Template.OnlyMarkers
      (if capabilities.animation then animatedSource else plainSource).toList)
    {values : Values} (all : values.All ('[' ∉ ·)) :
    (capabilities.apply plain animated values).1.All ('[' ∉ ·) := by
  -- Libraries change values, and sections have none.
  have prepared : (capabilities.keptSections (capabilities.fixedValues values)).All ('[' ∉ ·) := by
    have fixed := capabilities.all_fixedValues all
    unfold keptSections
    split
    · exact fixed.keep .scaffold
    · exact fixed
  -- The host is read from the source that was chosen for it.
  have read : Template.parse (if capabilities.animation then animatedSource else plainSource) =
      .ok (capabilities.host plain animated) := by
    unfold host
    split
    · exact readAnimated
    · exact readPlain
  -- So the host is filled with texts without brackets, and then loses some blanks.
  have filled := Template.bracket_not_mem_render read known prepared
  refine prepared.set ?_ .innerNavHost
  rw [String.toList_ofList]
  exact fun member => filled (mem_of_mem_trimRight member)

end Capabilities

end Navigation
