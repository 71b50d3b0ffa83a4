/-! What can be wrong with a set of destinations. -/

namespace Navigation

/-- A structural fault in the destinations; each one is fatal for the run that meets it. -/
inductive SetupError where
  /-- Two graph routes, `first` before `second`, give the same identifier. -/
  | duplicateIdentifier (identifier first second : String)
  /-- A graph route gives no identifier at all. -/
  | emptyIdentifier (route : String)
  /-- A graph has no start destination, or several. -/
  | illegalStarts (route : String) (count : Nat)
  /-- No destination belongs to the root graph. -/
  | missingRoot
  /-- A value in the graph at `route` holds a template token. -/
  | tokenInValue (route value : String)
  deriving DecidableEq

/-- The sentence a fault is reported by. -/
def SetupError.message : SetupError → String
  | .duplicateIdentifier identifier first second =>
    "graph identifier '" ++ identifier ++ "' derived from route '" ++ second ++
      "' collides with route '" ++ first ++ "'"
  | .emptyIdentifier route =>
    "route '" ++ route ++ "' has no letters to derive a graph identifier from"
  | .illegalStarts route 0 =>
    "no start destination found for nav graph '" ++ route ++ "'"
  | .illegalStarts route count =>
    "found " ++ toString count ++ " start destinations in nav graph '" ++ route ++
      "', only one is allowed"
  | .missingRoot => "no destinations belong to the root nav graph"
  | .tokenInValue route value =>
    "value '" ++ value ++ "' in nav graph '" ++ route ++ "' contains a template placeholder token"

end Navigation
