import Navigation.Check
import Navigation.Event
import Navigation.Graph

/-! Assembly: from destinations to the graphs of a program, or to all that is wrong with them. -/

namespace Navigation

/-- The graph of a group, once the group has a single start. -/
def Group.graph (nested : List String) (group : Group) : Except SetupError NavGraph :=
  group.start.map fun start =>
    { route := group.route
      identifier := Identifier.ofRoute group.route
      start := start
      entries := group.members.map fun member => ⟨member.route, member.simpleName⟩
      nested := nested
      optIns := group.optIns }

namespace Grouping

/-- The identifiers of the nested graphs, in their order. -/
def nestedIdentifiers (grouping : Grouping) : List String :=
  grouping.nested.map fun group => Identifier.ofRoute group.route

/-- The graphs of every group, the root graph listing the nested ones. -/
def graphTree (grouping : Grouping) : Except SetupError GraphTree := do
  let nested ← grouping.nested.mapM (Group.graph [])
  let root ← grouping.rootGroup.graph grouping.nestedIdentifiers
  return ⟨nested, root⟩

end Grouping

/-- Assembles the graphs; a single fault anywhere means that there are none. -/
def assemble (destinations : List Destination) : Except ErrorTree GraphTree :=
  match Grouping.ofDestinations destinations with
  | .error error => .error (.single error)
  | .ok grouping =>
    let faults := Check.all grouping
    match grouping.graphTree with
    | .ok tree => if faults.isEmpty then .ok tree else .error faults
    | .error _ => .error faults

/-- The event a group gives rise to, which it does once its start is known. -/
def Group.event? (group : Group) : Option Event :=
  match group.graph [] with
  | .ok graph =>
    some (.graphBuilt graph.route graph.identifier graph.start graph.entries.length)
  | .error _ => none

/-- What assembly reports: each graph that could be built, and whether all went well. -/
def assemblyEvents (destinations : List Destination) : List Event :=
  match Grouping.ofDestinations destinations with
  | .error _ => []
  | .ok grouping =>
    grouping.groups.filterMap Group.event? ++
      match assemble destinations with
      | .ok tree => [.graphsAssembled tree.graphs.length destinations.length]
      | .error _ => []

end Navigation
