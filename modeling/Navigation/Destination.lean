import Navigation.NameSet

/-! Destinations: the screens a program can navigate to, as they are found in its sources. -/

namespace Navigation

/-- Route of the reserved graph at the top, which every program has. -/
def rootRoute : String :=
  "root"

/-- One navigable destination; unless it says otherwise, it belongs to the root graph. -/
structure Destination where
  /-- Names both the reference to the destination and its generated type. -/
  simpleName : String
  /-- Key the destination is navigated to by, in any characters. -/
  route : String
  /-- Route of the graph the destination belongs to. -/
  graphRoute : String := rootRoute
  /-- Whether the destination's graph opens with it. -/
  isStart : Bool := false
  /-- Annotations a user of the destination has to opt in to. -/
  optIns : NameSet := NameSet.empty
  /-- Sources the destination was found in, handed on untouched. -/
  sourceIds : List String := []
  deriving DecidableEq

namespace Destination

/-- Moves a destination to the graph at a route. -/
def inGraph (destination : Destination) (graphRoute : String) : Destination :=
  { destination with graphRoute := graphRoute }

/-- Makes a destination the start of its graph. -/
def asStart (destination : Destination) : Destination :=
  { destination with isStart := true }

/-- Adds one annotation, by its name, to those required. -/
def withOptIn (destination : Destination) (name : String) : Destination :=
  { destination with optIns := destination.optIns.insert name }

/-- Adds one source behind those already known. -/
def withSource (destination : Destination) (source : String) : Destination :=
  { destination with sourceIds := destination.sourceIds ++ [source] }

/-- Whether a destination belongs to the root graph. -/
def inRoot (destination : Destination) : Bool :=
  destination.graphRoute == rootRoute

end Destination

end Navigation
