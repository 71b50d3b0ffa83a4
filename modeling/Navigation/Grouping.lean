import Navigation.Destination
import Navigation.SetupError

/-! Destinations grouped by the graph they belong to. -/

namespace Navigation

/-- A graph's route with the destinations that belong to it. -/
structure Group where
  route : String
  members : List Destination
  deriving DecidableEq

namespace Group

/-- Puts a destination behind the other members. -/
def join (destination : Destination) (group : Group) : Group :=
  { group with members := group.members ++ [destination] }

/-- The simple name of the group's only start destination. -/
def start (group : Group) : Except SetupError String :=
  match group.members.filter (·.isStart) with
  | [only] => .ok only.simpleName
  | starts => .error (.illegalStarts group.route starts.length)

/-- Every annotation that some destination of the group requires. -/
def optIns (group : Group) : NameSet :=
  group.members.foldl (fun found destination => found.union destination.optIns) NameSet.empty

/-- The texts of the group that end up in generated code, the graph's own route first. -/
def values (group : Group) : List String :=
  group.route :: group.members.flatMap fun destination =>
    destination.route :: destination.simpleName :: destination.optIns.names

end Group

/-- The root graph's destinations, and the other groups in order of first sighting. -/
structure Grouping where
  nested : List Group
  root : List Destination
  deriving DecidableEq

/-- Destinations grouped so far, and the place that each route has among the nested groups. -/
structure Roster where
  root : List Destination
  nested : List Group
  places : List (String × Nat)

namespace Roster

/-- The roster of no destinations. -/
def empty : Roster :=
  ⟨[], [], []⟩

/-- The place of a route's group; a route not met before gets a new group behind the others. -/
def place (route : String) (roster : Roster) : Nat × Roster :=
  match roster.places.lookup route with
  | some place => (place, roster)
  | none =>
    let next := roster.nested.length
    (next, { roster with
      nested := roster.nested ++ [⟨route, []⟩], places := (route, next) :: roster.places })

/-- Puts one more destination into its group. -/
def add (roster : Roster) (destination : Destination) : Roster :=
  if destination.inRoot then { roster with root := roster.root ++ [destination] }
  else
    let (place, opened) := roster.place destination.graphRoute
    { opened with nested := opened.nested.modify place (Group.join destination) }

/-- Puts destinations into their groups, in the order they are given. -/
def ofDestinations (destinations : List Destination) : Roster :=
  destinations.foldl add empty

end Roster

namespace Grouping

/-- Groups destinations in the order they are given. -/
def gather (destinations : List Destination) : Grouping :=
  let roster := Roster.ofDestinations destinations
  ⟨roster.nested, roster.root⟩

/-- Groups destinations, of which at least one has to be in the root graph. -/
def ofDestinations (destinations : List Destination) : Except SetupError Grouping :=
  let grouping := gather destinations
  if grouping.root.isEmpty then .error .missingRoot else .ok grouping

/-- The root graph's group. -/
def rootGroup (grouping : Grouping) : Group :=
  ⟨rootRoute, grouping.root⟩

/-- Every group, nested ones first and the root last. -/
def groups (grouping : Grouping) : List Group :=
  grouping.nested ++ [grouping.rootGroup]

end Grouping

end Navigation
