import Navigation.Assembly
import Navigation.Proofs.Assembly.Groups

/-! Assembly never looks at the sources of a destination, neither in its graphs nor in its faults. -/

namespace Navigation

/-- A destination that does not say where it was found. -/
def Destination.withoutSources (destination : Destination) : Destination :=
  { destination with sourceIds := [] }

namespace Group

/-- A group whose destinations do not say where they were found. -/
def withoutSources (group : Group) : Group :=
  { group with members := group.members.map Destination.withoutSources }

/-- The start of a group is found without its sources. -/
@[simp] theorem start_withoutSources (group : Group) : group.withoutSources.start = group.start := by
  -- The same destinations are marked, and they have the same names.
  have marked : group.withoutSources.members.filter (·.isStart) =
      (group.members.filter (·.isStart)).map Destination.withoutSources := by
    rw [withoutSources, List.filter_map]
    rfl
  rw [start, start, marked]
  cases group.members.filter (·.isStart) with
  | nil => rfl
  | cons only others =>
    cases others with
    | nil => rfl
    | cons second rest => simp [withoutSources]

/-- The annotations of a group are collected without its sources. -/
@[simp] theorem optIns_withoutSources (group : Group) :
    group.withoutSources.optIns = group.optIns := by
  -- Opt-ins are gathered from each member, and none of them is a source.
  rw [optIns, withoutSources, List.foldl_map]
  rfl

/-- The texts of a group are those it has without its sources. -/
@[simp] theorem values_withoutSources (group : Group) :
    group.withoutSources.values = group.values := by
  -- The texts of a member do not contain its source.
  rw [values, withoutSources, List.flatMap_map]
  rfl

/-- The graph of a group is built without its sources. -/
@[simp] theorem graph_withoutSources (nested : List String) (group : Group) :
    group.withoutSources.graph nested = group.graph nested := by
  -- Routes and names are listed as they are.
  have entries : group.withoutSources.members.map
      (fun member => (⟨member.route, member.simpleName⟩ : GraphEntry)) =
        group.members.map fun member => ⟨member.route, member.simpleName⟩ := by
    rw [withoutSources, List.map_map]
    rfl
  rw [graph, graph, start_withoutSources, optIns_withoutSources, entries]
  rfl

end Group

namespace Check

/-- Faults of identifiers are those of the routes. -/
theorem namingFaults_withoutSources (taken : List (String × String)) (groups : List Group) :
    namingFaults taken (groups.map Group.withoutSources) = namingFaults taken groups := by
  -- Only the route of each group is looked at, and the table goes on the same way.
  induction groups generalizing taken with
  | nil => rfl
  | cons group rest ih =>
    have route : group.withoutSources.route = group.route := rfl
    simp only [List.map_cons, namingFaults, route, ih]

/-- Faults of texts are found without the sources. -/
theorem tokenFaults_withoutSources (group : Group) :
    tokenFaults group.withoutSources = tokenFaults group := by
  -- The check looks at the texts and at the route.
  rw [tokenFaults, tokenFaults, Group.values_withoutSources]
  rfl

/-- Faults of starts are found without the sources. -/
theorem startFaults_withoutSources (group : Group) :
    startFaults group.withoutSources = startFaults group := by
  -- The check looks at the start and at the route.
  rw [startFaults, startFaults, Group.start_withoutSources]
  rfl

end Check

namespace Grouping

/-- A grouping whose destinations do not say where they were found. -/
def withoutSources (grouping : Grouping) : Grouping :=
  ⟨grouping.nested.map Group.withoutSources, grouping.root.map Destination.withoutSources⟩

/-- Every group is without its sources then. -/
theorem groups_withoutSources (grouping : Grouping) :
    grouping.withoutSources.groups = grouping.groups.map Group.withoutSources := by
  -- Nested groups and the root group change in the same way.
  rw [groups, groups, List.map_append]
  rfl

/-- The graphs of a grouping are built without its sources. -/
theorem graphTree_withoutSources (grouping : Grouping) :
    grouping.withoutSources.graphTree = grouping.graphTree := by
  -- Nested graphs and their fields come from the same groups, and so does the root graph.
  have nested : grouping.withoutSources.nested.mapM (Group.graph []) =
      grouping.nested.mapM (Group.graph []) := by
    rw [withoutSources, List.mapM_map]
    exact congrArg grouping.nested.mapM (funext (Group.graph_withoutSources []))
  have identifiers : grouping.withoutSources.nestedIdentifiers = grouping.nestedIdentifiers := by
    rw [nestedIdentifiers, withoutSources, List.map_map]
    rfl
  have root : grouping.withoutSources.rootGroup = grouping.rootGroup.withoutSources := rfl
  rw [graphTree, graphTree, nested, identifiers, root]
  simp only [Group.graph_withoutSources]

/-- The checks of a grouping find the same without its sources. -/
theorem all_withoutSources (grouping : Grouping) :
    Check.all grouping.withoutSources = Check.all grouping := by
  -- Each of the three checks lists the same faults of the same groups.
  simp only [Check.all, Check.starts, Check.tokens, Check.naming, groups_withoutSources,
    List.flatMap_map, Check.namingFaults_withoutSources, Check.tokenFaults_withoutSources,
    Check.startFaults_withoutSources]

end Grouping

/-- The members of a graph are the same ones, without their sources. -/
theorem membersAt_withoutSources (route : String) (destinations : List Destination) :
    membersAt route (destinations.map Destination.withoutSources) =
      (membersAt route destinations).map Destination.withoutSources := by
  -- A destination's graph is not its source.
  rw [membersAt, List.filter_map]
  rfl

/-- The graphs below the root are sighted in the same order. -/
theorem nestedRoutes_withoutSources (destinations : List Destination) :
    nestedRoutes (destinations.map Destination.withoutSources) = nestedRoutes destinations := by
  -- Routes are taken from each destination's graph.
  rw [nestedRoutes, List.map_map]
  rfl

/-- Destinations are grouped without their sources. -/
theorem grouped_withoutSources (destinations : List Destination) :
    grouped (destinations.map Destination.withoutSources) =
      (grouped destinations).withoutSources := by
  -- The routes are the same, and at each of them the members are.
  have group (route : String) : groupAt (destinations.map Destination.withoutSources) route =
      (groupAt destinations route).withoutSources := by
    rw [groupAt, membersAt_withoutSources]
    rfl
  rw [grouped, nestedRoutes_withoutSources, membersAt_withoutSources, Grouping.withoutSources,
    grouped, List.map_map, List.map_congr_left fun route _ => group route]
  rfl

/-- Assembly comes to the same without the sources of the destinations. -/
theorem assemble_withoutSources (destinations : List Destination) :
    assemble (destinations.map Destination.withoutSources) = assemble destinations := by
  -- Leaving sources out empties no group, so both have a root graph or neither has one.
  have rooted : (grouped destinations).withoutSources.root.isEmpty =
      (grouped destinations).root.isEmpty := List.isEmpty_map
  simp only [assemble, Grouping.ofDestinations, gather_eq_grouped, grouped_withoutSources, rooted]
  by_cases empty : (grouped destinations).root.isEmpty = true
  · simp only [if_pos empty]
  · simp only [if_neg empty, Grouping.all_withoutSources, Grouping.graphTree_withoutSources]

end Navigation
