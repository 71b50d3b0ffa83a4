import Navigation.Fragment
import Navigation.Template.Basic
import Navigation.Text.Blank

/-! Variants of the output that depend on the libraries a build has at hand. -/

namespace Navigation

/-- The optional libraries of a build. -/
structure Capabilities where
  animation : Bool := false
  material : Bool := false
  deriving DecidableEq

namespace Capabilities

/-- The annotation that marks the animated host as experimental, by the name it is imported by. -/
def experimentalAnnotation : String :=
  "androidx.compose.animation.ExperimentalAnimationApi"

/-- The five parameters that animation adds to a host. -/
def transitionParameters : List String :=
  ["contentAlignment", "enterTransition", "exitTransition", "popEnterTransition",
    "popExitTransition"]

/-- The call that makes a host's controller. -/
def navController (capabilities : Capabilities) : String :=
  if capabilities.animation then "rememberAnimatedNavController()" else "rememberNavController()"

/-- The annotation of the generated host, with its import. -/
def experimentalApi (capabilities : Capabilities) : Fragment :=
  if capabilities.animation then
    (Fragment.plain "\n@ExperimentalAnimationApi").withImport experimentalAnnotation
  else Fragment.plain ""

/-- The type of a parameter that makes one transition. -/
def transitionType (result : String) : String :=
  "(AnimatedContentScope<String>.(initial: NavBackStackEntry, target: NavBackStackEntry) -> " ++
    result ++ ")?"

/-- The additional parameters of the host, each with its default. -/
def defaultParameters (capabilities : Capabilities) : String :=
  if capabilities.animation then
    "\ncontentAlignment: Alignment = Alignment.Center,\nenterTransition: " ++
      transitionType "EnterTransition" ++
      " =\n    \x7b _, _ -> fadeIn(animationSpec = tween(700)) \x7d,\nexitTransition: " ++
      transitionType "ExitTransition" ++
      " =\n    \x7b _, _ -> fadeOut(animationSpec = tween(700)) \x7d,\npopEnterTransition: " ++
      transitionType "EnterTransition" ++ " = enterTransition,\npopExitTransition: " ++
      transitionType "ExitTransition" ++ " = exitTransition,"
  else ""

/-- The arguments that hand the additional parameters on to the inner host. -/
def forwardedArguments (capabilities : Capabilities) : String :=
  if capabilities.animation then
    ",".intercalate (transitionParameters.map fun name => "\n" ++ name ++ " = " ++ name)
  else ""

/-- The template of the inner host that fits the animation library. -/
def host (capabilities : Capabilities) (plain animated : Template) : Template :=
  if capabilities.animation then animated else plain

/-- The values that do not depend on a template. -/
def fixedValues (capabilities : Capabilities) (values : Values) : Values :=
  values
    |>.set .defaultNavController capabilities.navController
    |>.set .experimentalApi capabilities.experimentalApi.text
    |>.set .animationDefaultParams capabilities.defaultParameters
    |>.set .animationParamsToInner1 capabilities.forwardedArguments
    |>.set .animationParamsToInner2 capabilities.forwardedArguments

/-- The sections a build keeps, beside those kept already. -/
def keptSections (capabilities : Capabilities) (values : Values) : Values :=
  if capabilities.material then values.keep .scaffold else values

/-- Sets every value that the libraries decide, and gives the imports these need.

The inner host is a template too. It is filled here from the values reached so far, and set as a
finished text without the blanks at its end. -/
def apply (capabilities : Capabilities) (plain animated : Template) (values : Values) :
    Values × NameSet :=
  let prepared := capabilities.keptSections (capabilities.fixedValues values)
  let filled := (capabilities.host plain animated).render prepared
  (prepared.set .innerNavHost (String.ofList (trimRight filled.toList)),
    capabilities.experimentalApi.imports)

end Capabilities

end Navigation
