import Navigation.Artifact
import Navigation.Assembly
import Navigation.Capabilities
import Navigation.Declaration
import Navigation.ImportList
import Navigation.TemplateSet

/-! Generation: from destinations and templates to the two artifacts, and on to a sink. -/

namespace Navigation

/-- The names used in generated code, which the artifacts are addressed by too. -/
structure OutputNames where
  package : String := "destinations"
  aggregate : String := "Destinations"
  sealedDestination : String := "Destination"
  graphType : String := "NavGraph"
  graphsObject : String := "NavGraphs"
  deriving DecidableEq

/-- The artifacts of one run. -/
structure Generated where
  aggregate : Artifact
  sealedDestination : Artifact
  deriving DecidableEq

namespace Generated

/-- The artifacts in the order they are written. -/
def artifacts (generated : Generated) : List Artifact :=
  [generated.aggregate, generated.sealedDestination]

end Generated

/-- The text of the aggregate: what needs imports is rendered before the import block is. -/
def aggregateText (tree : GraphTree) (capabilities : Capabilities) (templates : TemplateSet)
    (names : OutputNames) : String :=
  let (values, hostImports) :=
    capabilities.apply templates.plainHost templates.animatedHost Values.empty
  let (declaration, imports) :=
    (Declaration.fragment names.graphType names.graphsObject tree).release hostImports
  let block := ImportList.render (templates.baseImports capabilities.animation) imports
  templates.aggregate.render
    ((values.set .navGraphsDeclaration declaration).set .imports block)

/-- Both artifacts, complete, or all that is wrong with the destinations. -/
def generate (destinations : List Destination) (capabilities : Capabilities)
    (templates : TemplateSet) (names : OutputNames) : Except ErrorTree Generated :=
  (assemble destinations).map fun tree =>
    { aggregate :=
        { package := names.package
          name := names.aggregate
          sourceIds := destinations.flatMap (·.sourceIds)
          contents := aggregateText tree capabilities templates names }
      sealedDestination :=
        { package := names.package
          name := names.sealedDestination
          sourceIds := []
          contents := templates.sealedDestination } }

/-- The placeholders whose values are lost where a template lacks them. -/
def Capabilities.wantedSlots (capabilities : Capabilities) : List Placeholder :=
  if capabilities.animation then [.animationDefaultParams, .experimentalApi] else []

/-- What generation reports. -/
def generationEvents (destinations : List Destination) (capabilities : Capabilities)
    (templates : TemplateSet) : List Event :=
  .generationStarted destinations.length capabilities.animation capabilities.material ::
    assemblyEvents destinations ++
    match assemble destinations with
    | .ok _ =>
      (capabilities.wantedSlots.filter fun slot => !templates.aggregate.uses slot).map fun slot =>
        .slotMissing slot.name
    | .error _ => []

/-- Why a run did not deliver its artifacts. -/
inductive ProcessError (ε : Type) where
  /-- The destinations have faults. -/
  | setup (faults : ErrorTree)
  /-- The sink could not write the artifact with this name. -/
  | output (name : String) (cause : ε)

/-- One run: its result, the artifacts that were written, and the sink's place afterwards. -/
structure Processed (σ ε : Type) where
  result : Except (ProcessError ε) Generated
  written : List Artifact
  place : σ

/-- Generates both artifacts and hands them to a sink; a run with faults leaves the sink alone. -/
def process {σ ε : Type} (sink : Sink σ ε) (destinations : List Destination)
    (capabilities : Capabilities) (templates : TemplateSet) (names : OutputNames) (place : σ) :
    Processed σ ε :=
  match generate destinations capabilities templates names with
  | .error faults => ⟨.error (.setup faults), [], place⟩
  | .ok generated =>
    let delivery := sink.deliver generated.artifacts place
    let result := match delivery.failure? with
      | some (name, cause) => .error (.output name cause)
      | none => .ok generated
    ⟨result, delivery.written, delivery.place⟩

/-- What the end of a run reports: every write as the sink does, then the success of the run. -/
def Processed.events {σ ε : Type} (run : Processed σ ε) (report : Artifact → List Event) :
    List Event :=
  run.written.flatMap report ++
    match run.result with
    | .ok generated =>
      [.generationFinished generated.aggregate.package generated.aggregate.name
        generated.sealedDestination.name]
    | .error _ => []

end Navigation
