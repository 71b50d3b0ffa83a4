import Navigation.Assembly
import Navigation.Proofs.Assembly.Groups
import Navigation.Proofs.Outcome

/-! The graphs of grouped destinations, built exactly if each of them has a single start. -/

namespace Navigation

open Outcome (mapM_eq_ok_iff)

/-- The number of destinations that are to open the graph at a route. -/
def startCount (destinations : List Destination) (route : String) : Nat :=
  (membersAt route destinations).countP (·.isStart)

/-- The graph at a route that has a start, with the given fields nested in it. -/
def graphAt (destinations : List Destination) (nested : List String) (route : String) : NavGraph :=
  let members := membersAt route destinations
  { route := route
    identifier := Identifier.ofRoute route
    start := ((members.find? (·.isStart)).map (·.simpleName)).getD ""
    entries := members.map fun member => ⟨member.route, member.simpleName⟩
    nested := nested
    optIns := (groupAt destinations route).optIns }

/-- The graphs of all routes. -/
def graphTreeOf (destinations : List Destination) : GraphTree :=
  ⟨(nestedRoutes destinations).map (graphAt destinations []),
    graphAt destinations ((nestedRoutes destinations).map Identifier.ofRoute) rootRoute⟩

/-- A group has a start exactly if one of its destinations is marked as such. -/
theorem start_groupAt (destinations : List Destination) (nested : List String) (route : String) :
    (groupAt destinations route).start =
      if startCount destinations route = 1 then .ok (graphAt destinations nested route).start
      else .error (.illegalStarts route (startCount destinations route)) := by
  -- The marked destinations are counted by listing them.
  have counted : startCount destinations route =
      ((membersAt route destinations).filter (·.isStart)).length := List.countP_eq_length_filter ..
  have first : (membersAt route destinations).find? (·.isStart) =
      ((membersAt route destinations).filter (·.isStart)).head? := (List.head?_filter ..).symm
  simp only [Group.start, groupAt, graphAt, first, counted]
  cases (membersAt route destinations).filter (·.isStart) with
  | nil => rfl
  | cons only others => cases others <;> simp

/-- A group is built exactly if it has a start. -/
theorem graph_groupAt (destinations : List Destination) (nested : List String) (route : String) :
    (groupAt destinations route).graph nested =
      if startCount destinations route = 1 then .ok (graphAt destinations nested route)
      else .error (.illegalStarts route (startCount destinations route)) := by
  -- Only the start can fail, and all the rest of the graph is given.
  rw [Group.graph, start_groupAt destinations nested route]
  split <;> rfl

/-- Where every graph has a start, all graphs are built. -/
theorem graphTree_grouped {destinations : List Destination}
    (started : ∀ route ∈ graphRoutes destinations, startCount destinations route = 1) :
    (grouped destinations).graphTree = .ok (graphTreeOf destinations) := by
  -- The nested graphs are built first, in the order of their routes.
  simp only [graphRoutes, List.forall_mem_append, List.forall_mem_singleton] at started
  have nested : (grouped destinations).nested.mapM (Group.graph []) =
      .ok (graphTreeOf destinations).nested := by
    rw [mapM_eq_ok_iff]
    simp only [grouped, graphTreeOf, List.map_map]
    refine List.map_congr_left fun route member => ?_
    simp [graph_groupAt, started.1 route member]
  have identifiers : (grouped destinations).nestedIdentifiers =
      (nestedRoutes destinations).map Identifier.ofRoute := by
    simp [Grouping.nestedIdentifiers, grouped, groupAt]
  -- The root graph comes last, and lists the fields of the others.
  have root : (grouped destinations).rootGroup.graph (grouped destinations).nestedIdentifiers =
      .ok (graphTreeOf destinations).root := by
    have group : (grouped destinations).rootGroup = groupAt destinations rootRoute := rfl
    rw [group, identifiers, graph_groupAt, if_pos started.2]
    rfl
  simp only [Grouping.graphTree, nested, root]
  rfl

end Navigation
