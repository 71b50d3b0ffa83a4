import Navigation.Template.Reader

/-! The templates of a project, as texts and ready for use. -/

namespace Navigation

/-- The texts a project's templates and import lists are made from. -/
structure TemplateSources where
  aggregate : String := ""
  sealedDestination : String := ""
  plainHost : String := ""
  animatedHost : String := ""
  imports : List String := []
  animatedImports : List String := []
  deriving DecidableEq

/-- A project's templates; the sealed destination is a finished text. -/
structure TemplateSet where
  aggregate : Template
  sealedDestination : String
  plainHost : Template
  animatedHost : Template
  imports : List String
  animatedImports : List String
  deriving DecidableEq

namespace TemplateSet

/-- The placeholders without which an aggregate template is of no use. -/
def required : List Placeholder :=
  [.navGraphsDeclaration, .imports]

/-- Reads the templates: the aggregate first, then the plain and the animated host. -/
def parse (sources : TemplateSources) : Except TemplateError TemplateSet := do
  let aggregate ← Template.parse sources.aggregate
  aggregate.require required
  let plainHost ← Template.parse sources.plainHost
  let animatedHost ← Template.parse sources.animatedHost
  return ⟨aggregate, sources.sealedDestination, plainHost, animatedHost, sources.imports,
    sources.animatedImports⟩

/-- The import list that fits the animation library. -/
def baseImports (templates : TemplateSet) (animation : Bool) : List String :=
  if animation then templates.animatedImports else templates.imports

end TemplateSet

end Navigation
