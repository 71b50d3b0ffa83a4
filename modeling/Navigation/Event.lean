/-! What a run reports about itself while it works. -/

namespace Navigation

/-- How much an event matters. -/
inductive Severity where
  | debug
  | info
  | warning
  deriving DecidableEq

/-- One value an event carries. -/
inductive Detail where
  | text (value : String)
  | number (value : Nat)
  | flag (value : Bool)
  deriving DecidableEq

/-- Something worth reporting that happened in a run. -/
inductive Event where
  | graphBuilt (route identifier start : String) (destinations : Nat)
  | graphsAssembled (graphs destinations : Nat)
  | generationStarted (destinations : Nat) (animation material : Bool)
  | slotMissing (placeholder : String)
  | artifactWritten (path : String) (sources : Nat)
  | generationFinished (package aggregate sealedDestination : String)
  | configLoaded (path : String)
  | configAbsent (directory : String)
  | outputFinished (directory : String)
  deriving DecidableEq

namespace Event

/-- The severity of an event. -/
def severity : Event → Severity
  | .graphBuilt .. | .artifactWritten .. | .configLoaded .. | .configAbsent .. => .debug
  | .slotMissing .. => .warning
  | .graphsAssembled .. | .generationStarted .. | .generationFinished ..
  | .outputFinished .. => .info

/-- The sentence an event is reported by. -/
def message : Event → String
  | .graphBuilt .. => "built nav graph"
  | .graphsAssembled .. => "assembled nav graphs"
  | .generationStarted .. => "generating destinations aggregate"
  | .slotMissing .. => "animation enabled but aggregate template has no slot for it"
  | .artifactWritten .. => "wrote artifact"
  | .generationFinished .. => "generated destinations"
  | .configLoaded .. => "loaded navgen config"
  | .configAbsent .. => "no navgen config found, using defaults"
  | .outputFinished .. => "navgen output written"

/-- The named values an event carries. -/
def details : Event → List (String × Detail)
  | .graphBuilt route identifier start destinations =>
    [("route", .text route), ("field", .text identifier), ("start", .text start),
      ("destinations", .number destinations)]
  | .graphsAssembled graphs destinations =>
    [("graphs", .number graphs), ("destinations", .number destinations)]
  | .generationStarted destinations animation material =>
    [("destinations", .number destinations), ("animation", .flag animation),
      ("material", .flag material)]
  | .slotMissing placeholder => [("placeholder", .text placeholder)]
  | .artifactWritten path sources => [("path", .text path), ("sources", .number sources)]
  | .generationFinished package aggregate sealedDestination =>
    [("package", .text package), ("aggregate", .text aggregate),
      ("sealed", .text sealedDestination)]
  | .configLoaded path => [("path", .text path)]
  | .configAbsent directory => [("dir", .text directory)]
  | .outputFinished directory => [("directory", .text directory)]

end Event

end Navigation
