import Navigation.Generation
import Navigation.Proofs.Assembly.Graphs
import Navigation.Proofs.Assembly.Sources

/-! Generated text is made of each graph's own destinations, however the graphs are interleaved. -/

namespace Navigation

/-- Lists of destinations that differ in their sources and in how their graphs are interleaved. -/
structure SameSequences (first second : List Destination) : Prop where
  /-- The graphs below the root are sighted in the same order. -/
  nested : nestedRoutes first = nestedRoutes second
  /-- Each graph, the root included, has the same destinations in the same order. -/
  members : ∀ route, (membersAt route first).map Destination.withoutSources =
    (membersAt route second).map Destination.withoutSources

namespace SameSequences

variable {first second : List Destination}

/-- Such lists are grouped in the same way, apart from the sources. -/
theorem grouped_eq (same : SameSequences first second) :
    (grouped first).withoutSources = (grouped second).withoutSources := by
  -- A group is its route and its members, and the root's group has no route of its own.
  have groups (route : String) : (groupAt first route).withoutSources =
      (groupAt second route).withoutSources := by
    simp only [groupAt, Group.withoutSources, same.members route]
  have nested : (nestedRoutes first).map (fun route => (groupAt first route).withoutSources) =
      (nestedRoutes second).map fun route => (groupAt second route).withoutSources := by
    rw [same.nested]
    exact List.map_congr_left fun route _ => groups route
  have root := same.members rootRoute
  simp only [Grouping.withoutSources, grouped, List.map_map, Function.comp_def, nested, root]

/-- Such lists are assembled to the same graphs, or fail with the same faults. -/
theorem assemble_eq (same : SameSequences first second) : assemble first = assemble second := by
  -- Assembly sees destinations only through their groups, and never sees their sources.
  have grouped : grouped (first.map Destination.withoutSources) =
      grouped (second.map Destination.withoutSources) := by
    rw [grouped_withoutSources, grouped_withoutSources, same.grouped_eq]
  rw [← assemble_withoutSources first, ← assemble_withoutSources second]
  simp only [assemble, Grouping.ofDestinations, gather_eq_grouped, grouped]

end SameSequences

/-- The sources of all destinations, in input order. -/
def allSources (destinations : List Destination) : List String :=
  destinations.flatMap (·.sourceIds)

/--
Generation sees the sequence of each graph, and the order in which nested graphs are sighted.

Where else destinations stand among those of other graphs shows in no fault and in no text: only the
list of sources, which the aggregate hands on, follows the order of the input.
-/
theorem generate_of_sameSequences {first second : List Destination}
    (same : SameSequences first second) (capabilities : Capabilities) (templates : TemplateSet)
    (names : OutputNames) :
    (∃ faults, generate first capabilities templates names = .error faults ∧
      generate second capabilities templates names = .error faults) ∨
    ∃ aggregate sealedDestination : Artifact,
      generate first capabilities templates names =
        .ok ⟨{ aggregate with sourceIds := allSources first }, sealedDestination⟩ ∧
      generate second capabilities templates names =
        .ok ⟨{ aggregate with sourceIds := allSources second }, sealedDestination⟩ ∧
      sealedDestination.sourceIds = [] := by
  -- Both runs work on one and the same outcome of assembly.
  have assembled := same.assemble_eq
  cases outcome : assemble first with
  | error faults =>
    rw [outcome] at assembled
    refine .inl ⟨faults, ?_, ?_⟩
    · rw [generate, outcome]
      rfl
    · rw [generate, ← assembled]
      rfl
  | ok tree =>
    rw [outcome] at assembled
    -- Of what goes into the artifacts, only the sources are taken from the destinations themselves.
    let aggregate : Artifact :=
      ⟨names.package, names.aggregate, [], aggregateText tree capabilities templates names⟩
    let sealedDestination : Artifact :=
      ⟨names.package, names.sealedDestination, [], templates.sealedDestination⟩
    refine .inr ⟨aggregate, sealedDestination, ?_, ?_, rfl⟩
    · rw [generate, outcome]
      rfl
    · rw [generate, ← assembled]
      rfl

/-- Two graphs below the root, once in one block each and once between the root's destinations. -/
theorem generate_of_sameSequences_interleaved :
    let home : Destination := { simpleName := "Home", route := "home", isStart := true }
    let about : Destination := { simpleName := "About", route := "about", sourceIds := ["About.kt"] }
    let shop : Destination :=
      { simpleName := "Shop", route := "s", graphRoute := "shop", isStart := true }
    let cart : Destination := { simpleName := "Cart", route := "c", graphRoute := "shop" }
    let help : Destination :=
      { simpleName := "Help", route := "h", graphRoute := "help", isStart := true }
    let first := [home, about, shop, cart, help]
    let second := [shop, home, help, { cart with sourceIds := ["Cart.kt"] }, about]
    let templates : TemplateSet := ⟨⟨[.item (.slot .navGraphsDeclaration [])]⟩, "", ⟨[]⟩, ⟨[]⟩, [], []⟩
    SameSequences first second ∧
      ∃ aggregate sealedDestination : Artifact,
        generate first {} templates {} =
          .ok ⟨{ aggregate with sourceIds := ["About.kt"] }, sealedDestination⟩ ∧
        generate second {} templates {} =
          .ok ⟨{ aggregate with sourceIds := ["Cart.kt", "About.kt"] }, sealedDestination⟩ ∧
        sealedDestination.sourceIds = [] := by
  intro home about shop cart help first second templates
  have same : SameSequences first second := by
    refine ⟨by decide +kernel, fun route => ?_⟩
    -- A route is that of the root, of one of the two graphs, or of none of the destinations.
    by_cases root : "root" = route
    · subst root
      decide +kernel
    · by_cases shops : "shop" = route
      · subst shops
        decide +kernel
      · by_cases helps : "help" = route
        · subst helps
          decide +kernel
        · simp [membersAt, first, second, home, about, shop, cart, help, rootRoute, root, shops,
            helps]
  have assembled : assemble first = .ok (graphTreeOf first) := by decide +kernel
  refine ⟨same, ?_⟩
  rcases generate_of_sameSequences same {} templates {} with ⟨faults, failed, _⟩ | made
  · -- There is nothing wrong with these destinations.
    rw [generate, assembled] at failed
    cases failed
  · exact made

end Navigation
