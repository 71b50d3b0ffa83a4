import Navigation.Grouping

/-! Grouping is stable: routes in order of first sighting, and under each its own destinations. -/

namespace Navigation

/-- Dropping repetitions leaves every name once. -/
theorem nodup_eraseDups : ∀ names : List String, names.eraseDups.Nodup
  | [] => by simp
  | first :: rest => by
    -- What is left behind the first name has lost all of its repetitions.
    rw [List.eraseDups_cons, List.nodup_cons]
    exact ⟨by simp [List.mem_eraseDups], nodup_eraseDups _⟩
termination_by names => names.length
decreasing_by
  have shorter := List.length_filter_le (fun name => !name == first) rest
  simp only [List.length_cons]
  omega

/-- One more name is kept behind the others, unless it is one of them. -/
theorem eraseDups_snoc (names : List String) (name : String) :
    (names ++ [name]).eraseDups =
      if name ∈ names then names.eraseDups else names.eraseDups ++ [name] := by
  -- A name at the end is dropped exactly if it was met before.
  rw [List.eraseDups_append]
  by_cases member : name ∈ names <;> simp [List.removeAll, List.eraseDups_cons, member]

/-- The destinations of the graph at a route, in input order. -/
def membersAt (route : String) (destinations : List Destination) : List Destination :=
  destinations.filter (·.graphRoute == route)

/-- The routes of the graphs below the root, each where it is sighted first. -/
def nestedRoutes (destinations : List Destination) : List String :=
  ((destinations.map (·.graphRoute)).filter (· != rootRoute)).eraseDups

/-- The routes of all graphs, the root's last. -/
def graphRoutes (destinations : List Destination) : List String :=
  nestedRoutes destinations ++ [rootRoute]

/-- The group at a route. -/
def groupAt (destinations : List Destination) (route : String) : Group :=
  ⟨route, membersAt route destinations⟩

/-- A route is that of a graph below the root exactly if some destination names it. -/
theorem mem_nestedRoutes {destinations : List Destination} {route : String} :
    route ∈ nestedRoutes destinations ↔
      route ≠ rootRoute ∧ ∃ destination ∈ destinations, destination.graphRoute = route := by
  -- Dropping repetitions drops no route, and the root graph is filtered out.
  simp [nestedRoutes, List.mem_eraseDups, and_comm]

/-- The graphs below the root have different routes. -/
theorem nodup_nestedRoutes (destinations : List Destination) :
    (nestedRoutes destinations).Nodup :=
  nodup_eraseDups _

/-- The root graph is not below itself. -/
theorem rootRoute_not_mem_nestedRoutes (destinations : List Destination) :
    rootRoute ∉ nestedRoutes destinations := by
  -- The root graph is what the filter asks for.
  simp [mem_nestedRoutes]

/-- All graphs have different routes. -/
theorem nodup_graphRoutes (destinations : List Destination) :
    (graphRoutes destinations).Nodup := by
  simp only [graphRoutes, List.nodup_append, List.mem_singleton]
  refine ⟨nodup_nestedRoutes destinations, by simp, ?_⟩
  -- The root's route is not among the nested ones.
  rintro route member _ rfl rfl
  exact rootRoute_not_mem_nestedRoutes destinations member

/-- A destination is a member of the graph it names. -/
theorem mem_membersAt {destinations : List Destination} {route : String}
    {destination : Destination} :
    destination ∈ membersAt route destinations ↔
      destination ∈ destinations ∧ destination.graphRoute = route := by
  -- Members are picked by their graph.
  simp [membersAt]

/-- One more destination comes behind the other members of its graph. -/
theorem groupAt_snoc_self (seen : List Destination) (destination : Destination) :
    groupAt (seen ++ [destination]) destination.graphRoute =
      ⟨destination.graphRoute, membersAt destination.graphRoute seen ++ [destination]⟩ := by
  -- The new destination is picked as the last one of its graph.
  simp [groupAt, membersAt]

/-- One more destination leaves the other graphs alone. -/
theorem groupAt_snoc_of_ne {route : String} (seen : List Destination) {destination : Destination}
    (other : destination.graphRoute ≠ route) :
    groupAt (seen ++ [destination]) route = groupAt seen route := by
  -- A destination of another graph is not picked.
  simp [groupAt, membersAt, other]

/-- One more destination changes no group where its route is not listed. -/
theorem map_groupAt_snoc {routes : List String} (seen : List Destination)
    {destination : Destination} (absent : destination.graphRoute ∉ routes) :
    routes.map (groupAt (seen ++ [destination])) = routes.map (groupAt seen) := by
  -- None of the listed graphs is the one of the new destination.
  refine List.map_congr_left fun route member => groupAt_snoc_of_ne seen ?_
  rintro rfl
  exact absent member

/-- A graph that no destination names has no members. -/
theorem membersAt_of_not_mem {seen : List Destination} {route : String} (nested : route ≠ rootRoute)
    (absent : route ∉ nestedRoutes seen) : membersAt route seen = [] := by
  -- A member would be a destination that names it.
  refine List.eq_nil_iff_forall_not_mem.2 fun earlier member => absent ?_
  obtain ⟨sighted, same⟩ := mem_membersAt.1 member
  exact mem_nestedRoutes.2 ⟨nested, earlier, sighted, same⟩

/-- One more destination adds its route behind the others, if it is new and not the root's. -/
theorem nestedRoutes_snoc (seen : List Destination) (destination : Destination) :
    nestedRoutes (seen ++ [destination]) =
      if destination.graphRoute = rootRoute ∨ destination.graphRoute ∈ nestedRoutes seen then
        nestedRoutes seen
      else nestedRoutes seen ++ [destination.graphRoute] := by
  by_cases atRoot : destination.graphRoute = rootRoute
  · simp [nestedRoutes, atRoot]
  · -- Among the routes below the root, it is new if it was not sighted before.
    simp [nestedRoutes, atRoot, eraseDups_snoc, List.mem_eraseDups]

/-- What grouping has to come to. -/
def grouped (destinations : List Destination) : Grouping :=
  ⟨(nestedRoutes destinations).map (groupAt destinations), membersAt rootRoute destinations⟩

/-- The place of a name put behind others is the first one that is free. -/
theorem idxOf?_snoc {names : List String} {name : String} (absent : name ∉ names)
    (other : String) :
    (names ++ [name]).idxOf? other =
      if other = name then some names.length else names.idxOf? other := by
  simp only [List.idxOf?, List.findIdx?_append]
  by_cases same : other = name
  · -- It is not among the names in front.
    subst same
    have none : names.findIdx? (· == other) = none := List.idxOf?_eq_none_iff.2 absent
    simp [none, List.findIdx?_cons]
  · simp [same, Ne.symm same, List.findIdx?_cons]

/-- A destination put in at the place of its route changes the group of that route only. -/
theorem modify_groupAt {routes : List String} (distinct : routes.Nodup) (seen : List Destination)
    (destination : Destination) {place : Nat}
    (found : routes.idxOf? destination.graphRoute = some place) :
    (routes.map (groupAt seen)).modify place (Group.join destination) =
      routes.map (groupAt (seen ++ [destination])) := by
  -- The groups in front of the place are passed over, and those behind have other routes.
  induction routes generalizing place with
  | nil => simp at found
  | cons route rest ih =>
    obtain ⟨absent, distinct⟩ := List.nodup_cons.1 distinct
    rw [List.idxOf?_cons] at found
    split at found
    · next same =>
      -- Its route stands nowhere further behind, so no other group changes.
      obtain rfl : 0 = place := Option.some.inj found
      obtain rfl : route = destination.graphRoute := by simpa using same
      rw [List.map_cons, List.map_cons, List.modify_zero_cons, groupAt_snoc_self,
        map_groupAt_snoc seen absent]
      rfl
    · next other =>
      obtain ⟨deeper, behind, rfl⟩ := Option.map_eq_some_iff.1 found
      have apart : destination.graphRoute ≠ route := by
        rintro rfl
        simp at other
      rw [List.map_cons, List.map_cons, List.modify_succ_cons, groupAt_snoc_of_ne seen apart,
        ih distinct behind]

namespace Roster

/-- Whether a roster has the groups of some routes, and knows the place of each of them. -/
structure Lists (routes : List String) (seen : List Destination) (roster : Roster) : Prop where
  nested : roster.nested = routes.map (groupAt seen)
  places : ∀ route, roster.places.lookup route = routes.idxOf? route

/-- Whether a roster groups the destinations that were put into it. -/
structure Keeps (seen : List Destination) (roster : Roster) : Prop where
  root : roster.root = membersAt rootRoute seen
  lists : Lists (nestedRoutes seen) seen roster

/--
A route's place is looked up or made, and either way it is where the route stands among the others.

The places and the groups stay in step, because a new route gets the place behind all groups.
-/
theorem Lists.place {seen : List Destination} {roster : Roster} {route : String}
    (lists : Lists (nestedRoutes seen) seen roster) (nested : route ≠ rootRoute) :
    let routes := if route ∈ nestedRoutes seen then nestedRoutes seen
      else nestedRoutes seen ++ [route]
    Lists routes seen (roster.place route).2 ∧
      routes.idxOf? route = some (roster.place route).1 ∧
      (roster.place route).2.root = roster.root := by
  intro routes
  by_cases met : route ∈ nestedRoutes seen
  · -- The route has a place, which is where it was first sighted.
    have known := List.isSome_idxOf?.2 met
    obtain ⟨place, found⟩ := Option.isSome_iff_exists.1 known
    have same : routes = nestedRoutes seen := if_pos met
    have looked := (lists.places route).trans found
    have placed : roster.place route = (place, roster) := by simp only [Roster.place, looked]
    rw [same, placed]
    exact ⟨lists, found, rfl⟩
  · -- The route has none, and gets one together with a group.
    have unknown := (lists.places route).trans (List.idxOf?_eq_none_iff.2 met)
    have next : roster.nested.length = (nestedRoutes seen).length := by simp [lists.nested]
    have placed : roster.place route = (roster.nested.length, { roster with
        nested := roster.nested ++ [⟨route, []⟩]
        places := (route, roster.nested.length) :: roster.places }) := by
      simp only [Roster.place, unknown]
    have same : routes = nestedRoutes seen ++ [route] := if_neg met
    rw [same, placed]
    refine ⟨⟨?_, fun other => ?_⟩, ?_, rfl⟩
    · simp [lists.nested, groupAt, membersAt_of_not_mem nested met]
    · rw [idxOf?_snoc met, ← lists.places, ← next, List.lookup_cons]
      by_cases new : other = route
      · simp [new]
      · simp [new, beq_false_of_ne new]
    · rw [idxOf?_snoc met, if_pos rfl, next]

/-- One more destination is grouped with those before. -/
theorem Keeps.add {seen : List Destination} {roster : Roster} (keeps : Keeps seen roster)
    (destination : Destination) : Keeps (seen ++ [destination]) (roster.add destination) := by
  by_cases atRoot : destination.graphRoute = rootRoute
  · -- The graphs below the root see none of it.
    have routes : nestedRoutes (seen ++ [destination]) = nestedRoutes seen := by
      simp [nestedRoutes_snoc, atRoot]
    have absent : destination.graphRoute ∉ nestedRoutes seen := by
      rw [atRoot]
      exact rootRoute_not_mem_nestedRoutes seen
    simp only [Roster.add, Destination.inRoot, atRoot, beq_self_eq_true, if_true]
    refine ⟨?_, ?_, ?_⟩
    · simp [keeps.root, membersAt, atRoot]
    · rw [routes, map_groupAt_snoc seen absent, keeps.lists.nested]
    · rw [routes]
      exact keeps.lists.places
  · -- The root graph sees none of it, and it is put in at the place of its route.
    obtain ⟨lists, found, root⟩ := keeps.lists.place atRoot
    have routes : nestedRoutes (seen ++ [destination]) =
        if destination.graphRoute ∈ nestedRoutes seen then nestedRoutes seen
        else nestedRoutes seen ++ [destination.graphRoute] := by
      simp [nestedRoutes_snoc, atRoot]
    rw [← routes] at lists found
    simp only [Roster.add, Destination.inRoot, beq_iff_eq, atRoot, if_false]
    refine ⟨?_, ?_, lists.places⟩
    · simp [root, keeps.root, membersAt, atRoot]
    · rw [lists.nested, modify_groupAt (nodup_nestedRoutes _) seen destination found]

/-- Destinations put in one after the other are grouped with those before. -/
theorem Keeps.foldl_add {seen : List Destination} {roster : Roster} (keeps : Keeps seen roster)
    (rest : List Destination) : Keeps (seen ++ rest) (rest.foldl Roster.add roster) := by
  -- What was seen grows by one destination a step.
  induction rest generalizing seen roster with
  | nil => simpa using keeps
  | cons destination rest ih => simpa using ih (keeps.add destination)

/-- A roster groups its destinations, whatever their routes and their order. -/
theorem keeps_ofDestinations (destinations : List Destination) :
    Keeps destinations (ofDestinations destinations) := by
  -- The empty roster keeps nothing, and every destination keeps the rest.
  have keeps : Keeps [] empty := ⟨rfl, rfl, fun _ => rfl⟩
  simpa [ofDestinations] using keeps.foldl_add destinations

end Roster

/-- Grouping gives each graph its own destinations, nothing lost, repeated or moved. -/
theorem gather_eq_grouped (destinations : List Destination) :
    Grouping.gather destinations = grouped destinations := by
  -- The roster is read off as soon as all destinations are in it.
  have keeps := Roster.keeps_ofDestinations destinations
  simp only [Grouping.gather, grouped, keeps.root, keeps.lists.nested]

/-- The groups are those of the graphs' routes, the root's last. -/
theorem groups_grouped (destinations : List Destination) :
    (grouped destinations).groups = (graphRoutes destinations).map (groupAt destinations) := by
  -- The nested groups come first, and the root group is the last one.
  simp [grouped, Grouping.groups, Grouping.rootGroup, graphRoutes, groupAt]

/-- Destinations cannot be grouped exactly if none of them belongs to the root graph. -/
theorem ofDestinations_eq (destinations : List Destination) :
    Grouping.ofDestinations destinations =
      if ∃ destination ∈ destinations, destination.graphRoute = rootRoute
      then .ok (grouped destinations) else .error .missingRoot := by
  -- The check looks at the root's members, which are those that name it.
  have empty : (membersAt rootRoute destinations).isEmpty = true ↔
      ¬ ∃ destination ∈ destinations, destination.graphRoute = rootRoute := by
    simp [membersAt]
  simp only [Grouping.ofDestinations, gather_eq_grouped]
  by_cases rooted : ∃ destination ∈ destinations, destination.graphRoute = rootRoute
  · have filled : ¬ (grouped destinations).root.isEmpty = true := fun none => empty.1 none rooted
    rw [if_neg filled, if_pos rooted]
  · have none : (grouped destinations).root.isEmpty = true := empty.2 rooted
    rw [if_pos none, if_neg rooted]

end Navigation
