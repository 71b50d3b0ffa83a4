import Mathlib.Data.List.Forall2
import Mathlib.Logic.Relation
import Navigation.Proofs.Manifest.Spelled

/-! Manifests are read back as they were written, and so are those that say the same otherwise. -/

namespace Navigation.Manifest

open Outcome (mapM_eq_some_iff)

/-- One way to write the object of a destination anew, so that it says the same. -/
inductive Rephrased : Json.Value → Json.Value → Prop
  /-- The entries may come in any order. -/
  | permuted {entries others : Entries} (reordered : entries.Perm others) :
    Rephrased (.object entries) (.object others)
  /-- An entry with a default may be left out. -/
  | leftOut {field : DestinationField} {default : Json.Value} {rest : Entries}
    (known : field.default? = some default) :
    Rephrased (.object (entry (field, default) :: rest)) (.object rest)
  /-- A default that was left out may be written. -/
  | writtenOut {field : DestinationField} {default : Json.Value} {rest : Entries}
    (known : field.default? = some default) (absent : some field.key ∉ rest.map Prod.fst) :
    Rephrased (.object rest) (.object (entry (field, default) :: rest))
  /-- Annotations may be listed in any order, and more than once. -/
  | relisted {names others : List String} {rest : Entries}
    (same : ∀ name, name ∈ names ↔ name ∈ others) :
    Rephrased (.object (entry (.optIns, .ofTexts names) :: rest))
      (.object (entry (.optIns, .ofTexts others) :: rest))

/-- One way to write a manifest anew: the object of one of its destinations is. -/
inductive Restated : Json.Value → Json.Value → Prop
  | item {front back : List Json.Value} {value other : Json.Value}
    (rephrased : Rephrased value other) :
    Restated (.array (front ++ value :: back)) (.array (front ++ other :: back))

/-- Whether a value is an object that says what a destination is. -/
def Describes (destination : Destination) (value : Json.Value) : Prop :=
  ∃ entries, value = .object entries ∧ Spells destination entries

/-- A value that describes a destination is read as that destination. -/
theorem Describes.destination? {destination : Destination} {value : Json.Value}
    (describes : Describes destination value) : Manifest.destination? value = some destination := by
  -- An object that spells a destination is read field by field.
  obtain ⟨entries, rfl, spells⟩ := describes
  exact spells.destination?

/-- A value that is written anew describes the same destination. -/
theorem Describes.rephrased {destination : Destination} {value other : Json.Value}
    (describes : Describes destination value) (step : Rephrased value other) :
    Describes destination other := by
  obtain ⟨entries, rfl, spells⟩ := describes
  -- Each way to write an object anew keeps what its entries say.
  cases step with
  | permuted reordered => exact ⟨_, rfl, spells.perm reordered⟩
  | leftOut known => exact ⟨_, rfl, spells.leaveOut known⟩
  | @writtenOut field default _ known absent =>
    -- A field without an entry has its default, and that is what is written.
    have written : default = field.value destination :=
      Option.some.inj (known.symm.trans (spells.left field absent))
    exact ⟨_, rfl, spells.cons absent (written ▸ field.tells_value destination)⟩
  | relisted same =>
    -- The names that were listed are those of the destination, and so are the others.
    obtain ⟨names, listed, members⟩ := spells.head
    refine ⟨_, rfl, spells.retell ⟨_, rfl, fun name => (same name).symm.trans ?_⟩⟩
    rw [Json.Value.ofTexts_injective listed]
    exact members name

/-- A manifest that is written anew describes the same destinations. -/
theorem describes_of_restated {destinations : List Destination} {items : List Json.Value}
    {value : Json.Value} (described : List.Forall₂ Describes destinations items)
    (step : Restated (.array items) value) :
    ∃ others, value = .array others ∧ List.Forall₂ Describes destinations others := by
  cases step with
  | @item front back value other rephrased =>
    refine ⟨_, rfl, ?_⟩
    -- The items in front are passed one by one, together with their destinations.
    induction front generalizing destinations with
    | nil =>
      obtain ⟨first, rest, describes, behind, rfl⟩ := List.forall₂_cons_right_iff.1 described
      exact .cons (describes.rephrased rephrased) behind
    | cons passed front ih =>
      obtain ⟨first, rest, describes, behind, rfl⟩ := List.forall₂_cons_right_iff.1 described
      exact .cons describes (ih behind)

/-- A manifest is read as the destinations that it describes. -/
theorem decode?_of_describes {destinations : List Destination} {items : List Json.Value}
    (described : List.Forall₂ Describes destinations items) :
    decode? (.array items) = some destinations := by
  -- Each item is read as the destination at its place.
  rw [decode?, mapM_eq_some_iff]
  induction described with
  | nil => rfl
  | cons describes _ ih => simp only [List.map_cons, describes.destination?, ih]

/-- A manifest describes the destinations that it was written for. -/
theorem describes_encode (destinations : List Destination) :
    ∃ items, encode destinations = .array items ∧ List.Forall₂ Describes destinations items := by
  -- Each destination is written where it stands.
  refine ⟨_, rfl, ?_⟩
  rw [List.forall₂_map_right_iff, List.forall₂_same]
  exact fun destination _ => spells_encodeDestination destination

/-- However often a manifest is written anew, it describes the destinations it was written for. -/
theorem describes_of_reflTransGen {destinations : List Destination} {value : Json.Value}
    (steps : Relation.ReflTransGen Restated (encode destinations) value) :
    ∃ items, value = .array items ∧ List.Forall₂ Describes destinations items := by
  -- The manifest that is written describes them, and each step keeps that.
  induction steps with
  | refl => exact describes_encode destinations
  | tail _ step ih =>
    obtain ⟨items, rfl, described⟩ := ih
    exact describes_of_restated described step

/-- One object that is no destination is enough for a manifest not to be read. -/
theorem decode?_of_mem {items : List Json.Value} {value : Json.Value} (listed : value ∈ items)
    (unread : destination? value = none) : decode? (.array items) = none := by
  cases decoded : decode? (.array items) with
  | none => rfl
  | some destinations =>
    -- Otherwise, each of the objects would be one of the destinations.
    rw [decode?, mapM_eq_some_iff] at decoded
    have absent : none ∈ items.map destination? := List.mem_map.2 ⟨value, listed, unread⟩
    rw [decoded] at absent
    exact absurd absent (by simp)

/--
A manifest is read back as the destinations it was written for, however it is written anew.

Whatever is left out has a default then, and the names and routes of destinations have none.
-/
theorem decode?_of_restated :
    (∀ destinations, decode? (encode destinations) = some destinations) ∧
    (∀ destinations value, Relation.ReflTransGen Restated (encode destinations) value →
      decode? value = some destinations) ∧
    ∀ (items : List Json.Value) (entries : Entries) (field : DestinationField),
      (field = .simpleName ∨ field = .route) → .object entries ∈ items →
      some field.key ∉ entries.map Prod.fst → decode? (.array items) = none := by
  -- Each step keeps the items describing the destinations, and so does the whole run.
  have restated : ∀ destinations value,
      Relation.ReflTransGen Restated (encode destinations) value →
      decode? value = some destinations := by
    intro destinations value steps
    obtain ⟨items, rfl, described⟩ := describes_of_reflTransGen steps
    exact decode?_of_describes described
  refine ⟨fun destinations => restated destinations _ .refl, restated, ?missing⟩
  case missing =>
    -- One destination without such a key is enough to reject all of them.
    intro items entries field needed listed absent
    have required : field.isRequired = true := by
      rcases needed with rfl | rfl <;> rfl
    exact decode?_of_mem listed (destination?_of_absent required absent)

/-- A manifest with its keys in another order, defaults left out, and an annotation repeated. -/
theorem decode?_of_restated_relisted :
    let destination : Destination :=
      { simpleName := "Home", route := "\"h", optIns := ⟨["A", "B"], by decide +kernel⟩ }
    let simpleName := entry (.simpleName, .ofText "Home")
    let route := entry (.route, .ofText "\"h")
    let value : Json.Value := .array [.object
      [entry (.sourceIds, .array []), entry (.optIns, .ofTexts ["B", "A", "B"]), simpleName, route]]
    Relation.ReflTransGen Restated (encode [destination]) value ∧
      decode? value = some [destination] ∧
      decode? (.array [.object [simpleName]]) = none := by
  intro destination simpleName route value
  let graphRoute := entry (.graphRoute, .ofText "root")
  let isStart := entry (.isStart, .flag false)
  let listed := entry (.optIns, .ofTexts ["A", "B"])
  let relisted := entry (.optIns, .ofTexts ["B", "A", "B"])
  -- All steps are taken in the only entry of the list.
  have only {entries others : Entries} (step : Rephrased (.object entries) (.object others)) :
      Restated (.array [.object entries]) (.array [.object others]) :=
    @Restated.item [] [] _ _ step
  have first : Rephrased (.object ([simpleName, route, graphRoute, isStart] ++ [listed]))
      (.object ([listed] ++ [simpleName, route, graphRoute, isStart])) :=
    .permuted List.perm_append_comm
  have second : Rephrased (.object (listed :: [simpleName, route, graphRoute, isStart]))
      (.object (relisted :: [simpleName, route, graphRoute, isStart])) :=
    .relisted fun name => by grind
  have third : Rephrased (.object ([relisted, simpleName, route] ++ [graphRoute, isStart]))
      (.object ([graphRoute, isStart] ++ [relisted, simpleName, route])) :=
    .permuted List.perm_append_comm
  have fourth : Rephrased (.object (graphRoute :: isStart :: [relisted, simpleName, route]))
      (.object (isStart :: [relisted, simpleName, route])) := .leftOut rfl
  have fifth : Rephrased (.object (isStart :: [relisted, simpleName, route]))
      (.object [relisted, simpleName, route]) := .leftOut rfl
  have sixth : Rephrased (.object [relisted, simpleName, route])
      (.object (entry (.sourceIds, .array []) :: [relisted, simpleName, route])) :=
    .writtenOut rfl (by decide)
  -- Annotations come first to be listed anew, then two defaults are left out and one is written.
  have steps : Relation.ReflTransGen Restated (encode [destination]) value :=
    ((((((Relation.ReflTransGen.refl).tail (only first)).tail (only second)).tail (only third)).tail
      (only fourth)).tail (only fifth)).tail (only sixth)
  obtain ⟨-, restated, missing⟩ := decode?_of_restated
  exact ⟨steps, restated _ _ steps,
    missing _ [simpleName] .route (.inr rfl) List.mem_cons_self (by decide)⟩

end Navigation.Manifest
