import Mathlib.Data.List.Basic
import Mathlib.Data.List.Induction
import Navigation.Proofs.Assembly.Groups

/-! Grouping destinations is a stable partition: each is in the group of its route, and in turn. -/

namespace Navigation

/-- A grouping that has every destination under its own route, in the order of the input. -/
structure StablePartition (destinations : List Destination) (grouping : Grouping) : Prop where
  root : grouping.root = destinations.filter (·.graphRoute == rootRoute)
  routes : ∀ route, route ∈ grouping.nested.map (·.route) ↔
    route ≠ rootRoute ∧ ∃ destination ∈ destinations, destination.graphRoute = route
  distinct : (grouping.nested.map (·.route)).Nodup
  sighted : (grouping.nested.map (·.route)).Pairwise fun one later =>
    (destinations.map (·.graphRoute)).idxOf one < (destinations.map (·.graphRoute)).idxOf later
  members : ∀ group ∈ grouping.nested,
    group.members = destinations.filter (·.graphRoute == group.route) ∧ group.members ≠ []
  rootLast : grouping.groups = grouping.nested ++ [⟨rootRoute, grouping.root⟩]
  complete : (grouping.groups.flatMap (·.members)).Perm destinations

/-- Routes are listed in the order in which they are sighted first. -/
theorem pairwise_nestedRoutes (destinations : List Destination) :
    (nestedRoutes destinations).Pairwise fun one later =>
      (destinations.map (·.graphRoute)).idxOf one <
        (destinations.map (·.graphRoute)).idxOf later := by
  -- Each destination comes behind those that were looked at, and so does its route if it is new.
  induction destinations using List.reverseRecOn with
  | nil => exact .nil
  | append_singleton seen destination ih =>
    have sighted : ∀ route ∈ nestedRoutes seen, route ∈ seen.map (·.graphRoute) := by
      intro route member
      obtain ⟨-, earlier, among, rfl⟩ := mem_nestedRoutes.1 member
      exact List.mem_map_of_mem among
    have kept : (nestedRoutes seen).Pairwise fun one later =>
        ((seen ++ [destination]).map (·.graphRoute)).idxOf one <
          ((seen ++ [destination]).map (·.graphRoute)).idxOf later := by
      -- A route that was sighted before keeps its place.
      refine ih.imp_of_mem fun {one later} first second earlier => ?_
      rw [List.map_append, List.idxOf_append_of_mem (sighted one first),
        List.idxOf_append_of_mem (sighted later second)]
      exact earlier
    rw [nestedRoutes_snoc]
    split
    · exact kept
    · next new =>
      rw [not_or] at new
      refine List.pairwise_append.2 ⟨kept, List.pairwise_singleton .., ?_⟩
      intro one first later last
      obtain rfl := List.mem_singleton.1 last
      -- The new route is at the very end, and the other one is not.
      have absent : destination.graphRoute ∉ seen.map (·.graphRoute) := by
        intro met
        obtain ⟨earlier, among, same⟩ := List.mem_map.1 met
        exact new.2 (mem_nestedRoutes.2 ⟨new.1, earlier, among, same⟩)
      rw [List.map_append, List.idxOf_append_of_mem (sighted one first),
        List.idxOf_append_of_notMem absent]
      exact Nat.lt_of_lt_of_le (List.idxOf_lt_length_of_mem (sighted one first)) (Nat.le_add_right ..)

/-- The members of different graphs are the destinations that name one of them. -/
theorem perm_flatMap_membersAt {routes : List String} (distinct : routes.Nodup)
    (destinations : List Destination) :
    (routes.flatMap fun route => membersAt route destinations).Perm
      (destinations.filter fun destination => routes.contains destination.graphRoute) := by
  -- Of all that name some route of the list, those that name the first are split off.
  induction routes with
  | nil => simp
  | cons route rest ih =>
    obtain ⟨absent, distinct⟩ := List.nodup_cons.1 distinct
    let listed := destinations.filter fun destination =>
      (route :: rest).contains destination.graphRoute
    have here : listed.filter (·.graphRoute == route) = membersAt route destinations := by
      rw [List.filter_filter, membersAt]
      refine List.filter_congr fun destination _ => ?_
      by_cases same : destination.graphRoute = route <;> simp [same]
    -- The route is listed once, so what does not name it names one of the rest.
    have behind : listed.filter (fun destination => !(destination.graphRoute == route)) =
        destinations.filter fun destination => rest.contains destination.graphRoute := by
      rw [List.filter_filter]
      refine List.filter_congr fun destination _ => ?_
      by_cases same : destination.graphRoute = route <;> simp [same, absent]
    have split := List.filter_append_perm (·.graphRoute == route) listed
    rw [here, behind] at split
    rw [List.flatMap_cons]
    exact ((ih distinct).append_left _).trans split

/-- Every destination is a member of one of the groups, as often as it is given. -/
theorem perm_flatMap_groups {destinations : List Destination} :
    ((grouped destinations).groups.flatMap (·.members)).Perm destinations := by
  -- All routes are among those of the groups.
  have every : destinations.filter (fun destination =>
      (graphRoutes destinations).contains destination.graphRoute) = destinations := by
    refine List.filter_eq_self.2 fun destination member => ?_
    rw [List.contains_iff_mem, graphRoutes, List.mem_append, List.mem_singleton, mem_nestedRoutes]
    by_cases atRoot : destination.graphRoute = rootRoute
    · exact .inr atRoot
    · exact .inl ⟨atRoot, destination, member, rfl⟩
  have split := perm_flatMap_membersAt (nodup_graphRoutes destinations) destinations
  rw [every] at split
  rw [groups_grouped, List.flatMap_map]
  exact split

/-- What grouping comes to is a stable partition. -/
theorem stablePartition_grouped (destinations : List Destination) :
    StablePartition destinations (grouped destinations) := by
  -- The groups are those of the nested routes, so what holds of the routes holds of them.
  have routes : (grouped destinations).nested.map (·.route) = nestedRoutes destinations := by
    simp [grouped, Function.comp_def, groupAt]
  refine ⟨rfl, ?_, ?_, ?_, ?_, rfl, perm_flatMap_groups⟩
  · intro route
    rw [routes]
    exact mem_nestedRoutes
  · rw [routes]
    exact nodup_nestedRoutes destinations
  · rw [routes]
    exact pairwise_nestedRoutes destinations
  · -- A route is listed since some destination has it, and that is a member.
    intro group member
    obtain ⟨route, listed, rfl⟩ := List.mem_map.1 member
    obtain ⟨-, destination, among, same⟩ := mem_nestedRoutes.1 listed
    refine ⟨rfl, List.ne_nil_of_mem (a := destination) ?_⟩
    exact mem_membersAt.2 ⟨among, same⟩

/-- The place used for a destination is that of its group, which has the earlier members so far. -/
theorem getElem_place {seen : List Destination} {destination : Destination}
    (nested : destination.graphRoute ≠ rootRoute) {place : Nat} {opened : Roster}
    (placed : (Roster.ofDestinations seen).place destination.graphRoute = (place, opened)) :
    ∃ inside : place < opened.nested.length,
      opened.nested[place] = groupAt seen destination.graphRoute := by
  -- Places are positions among the routes, and so are the groups.
  obtain ⟨lists, found, -⟩ := (Roster.keeps_ofDestinations seen).lists.place nested
  rw [placed] at lists found
  obtain ⟨within, same, -⟩ := List.idxOf?_eq_some_iff.1 found
  have groups : opened.nested = _ := lists.nested
  have inside : place < opened.nested.length := by
    rw [groups, List.length_map]
    exact within
  refine ⟨inside, ?_⟩
  simp only [groups, List.getElem_map, same]

/--
Grouping fails only without a root graph, and otherwise it is a stable partition.

At each step, the place looked up for a destination is that of the group of its route, so no
destination is ever put into another group or nowhere.
-/
theorem stablePartition_ofDestinations (destinations : List Destination) :
    (if ∃ destination ∈ destinations, destination.graphRoute = rootRoute then
      ∃ grouping, Grouping.ofDestinations destinations = .ok grouping ∧
        StablePartition destinations grouping
    else Grouping.ofDestinations destinations = .error .missingRoot) ∧
    ∀ seen destination rest, destinations = seen ++ destination :: rest →
      destination.graphRoute ≠ rootRoute →
      ∀ place opened, (Roster.ofDestinations seen).place destination.graphRoute = (place, opened) →
        ∃ inside : place < opened.nested.length, opened.nested[place] =
          ⟨destination.graphRoute, seen.filter (·.graphRoute == destination.graphRoute)⟩ := by
  constructor
  · have outcome := ofDestinations_eq destinations
    split
    · next rooted =>
      rw [if_pos rooted] at outcome
      exact ⟨grouped destinations, outcome, stablePartition_grouped destinations⟩
    · next rootless =>
      rw [if_neg rootless] at outcome
      exact outcome
  · -- What was put in before the destination is a roster of its own.
    intro seen destination rest _ nested place opened placed
    exact getElem_place nested placed

/-- A route that is met again, behind the root and one that only looks like it. -/
theorem stablePartition_ofDestinations_of_interleaved :
    let first : Destination := { simpleName := "A", route := "a", graphRoute := "second" }
    let home : Destination := { simpleName := "Home", route := "home" }
    let other : Destination := { simpleName := "B", route := "b", graphRoute := "Root" }
    let again : Destination := { simpleName := "C", route := "c", graphRoute := "second" }
    (∃ grouping, Grouping.ofDestinations [first, home, other, again] = .ok grouping ∧
      StablePartition [first, home, other, again] grouping) ∧
    ∃ place opened, (Roster.ofDestinations [first, home, other]).place "second" = (place, opened) ∧
      ∃ inside : place < opened.nested.length, opened.nested[place] = ⟨"second", [first]⟩ := by
  -- The last destination is the second one of a graph that is listed already.
  intro first home other again
  obtain ⟨outcome, placed⟩ := stablePartition_ofDestinations [first, home, other, again]
  rw [if_pos (by decide)] at outcome
  refine ⟨outcome, _, _, rfl, ?_⟩
  exact placed [first, home, other] again [] rfl (by decide) _ _ rfl

end Navigation
