import Navigation.Manifest
import Navigation.Proofs.NameSet
import Navigation.Proofs.Outcome
import Navigation.Proofs.Record

/-! The fields of a destination: how they are written, what they default to, how they are read. -/

namespace Navigation

open Outcome (mapM_eq_some_iff)

namespace Json.Value

/-- A text is told from the value that holds it. -/
theorem ofText_injective : Function.Injective ofText := by
  -- The text is all that the value has.
  intro text other same
  simpa [ofText] using same

/-- Texts are told from the array that lists them. -/
theorem ofTexts_injective : Function.Injective ofTexts := by
  -- The values of a list are compared one by one.
  intro texts others same
  simp only [ofTexts, array.injEq] at same
  exact ofText_injective.list_map same

end Json.Value

namespace DestinationField

/-- What a destination has in a field, as it is written. -/
def value (destination : Destination) : DestinationField → Json.Value
  | .simpleName => .ofText destination.simpleName
  | .route => .ofText destination.route
  | .graphRoute => .ofText destination.graphRoute
  | .isStart => .flag destination.isStart
  | .optIns => .ofTexts destination.optIns.names
  | .sourceIds => .ofTexts destination.sourceIds

/-- The value that a field has where it is left out, if it may be. -/
def default? : DestinationField → Option Json.Value
  | .simpleName => none
  | .route => none
  | .graphRoute => some (.ofText rootRoute)
  | .isStart => some (.flag false)
  | .optIns => some (.array [])
  | .sourceIds => some (.array [])

/-- Whether a value says what a destination has in a field.

Annotations are a set, so they may be listed in any order, and more than once. -/
def Tells (destination : Destination) (told : Json.Value) : DestinationField → Prop
  | .optIns => ∃ names, told = .ofTexts names ∧ ∀ name, name ∈ names ↔ name ∈ destination.optIns
  | field => told = field.value destination

/-- Fields have different keys. -/
theorem key_injective : Function.Injective key := by
  -- Each of the six keys is compared with each.
  intro field other same
  cases field <;> cases other <;> first | rfl | exact absurd same (by decide)

/-- A field is found by its key. -/
@[simp] theorem ofKey?_key (field : DestinationField) : ofKey? field.key = some field := by
  -- Each key is looked up among all of them.
  cases field <;> decide

/-- A field that is found by a key has that key. -/
theorem key_of_ofKey? {key : String} {field : DestinationField} (found : ofKey? key = some field) :
    field.key = key := by
  -- The fields are searched for one that has the key.
  simpa using List.find?_some found

/-- Every field is listed. -/
theorem mem_all (field : DestinationField) : field ∈ all := by
  -- Each field is looked for in the list.
  cases field <;> decide

/-- A field may be left out exactly if it is not required. -/
theorem default?_eq_none_iff {field : DestinationField} :
    field.default? = none ↔ field.isRequired = true := by
  -- The two required fields are the ones without a default.
  cases field <;> simp [default?, isRequired]

/-- A destination is known from its fields. -/
theorem eq_of_value_eq (first second : Destination)
    (same : ∀ field, value first field = value second field) : first = second := by
  -- What a field holds can be told from what is written, and that of annotations is in order.
  have simpleName := Json.Value.ofText_injective (same .simpleName)
  have route := Json.Value.ofText_injective (same .route)
  have graphRoute := Json.Value.ofText_injective (same .graphRoute)
  have isStart := Json.Value.flag.inj (same .isStart)
  have optIns := NameSet.eq_of_names (Json.Value.ofTexts_injective (same .optIns))
  have sourceIds := Json.Value.ofTexts_injective (same .sourceIds)
  cases first
  cases second
  simp only [Destination.mk.injEq]
  exact ⟨simpleName, route, graphRoute, isStart, optIns, sourceIds⟩

/-- What is written says what the destination has. -/
theorem tells_value (destination : Destination) (field : DestinationField) :
    field.Tells destination (field.value destination) := by
  -- Only the opt-ins can be told in more than one way.
  cases field with
  | optIns => exact ⟨destination.optIns.names, rfl, fun _ => Iff.rfl⟩
  | _ => rfl

/-- A default says that the destination has the default. -/
theorem value_of_tells_default {destination : Destination} {field : DestinationField}
    {default : Json.Value} (known : field.default? = some default)
    (tells : field.Tells destination default) : default = field.value destination := by
  -- Only annotations can be told of in more than one way.
  cases field with
  | optIns =>
    -- No annotation is listed, so there is none.
    obtain ⟨names, listed, same⟩ := tells
    cases Option.some.inj known
    have none : [] = names :=
      Json.Value.ofTexts_injective
        (show Json.Value.ofTexts [] = Json.Value.ofTexts names from listed)
    have nothing : destination.optIns = NameSet.empty := NameSet.eq_of_mem_iff fun name =>
      (same name).symm.trans (by simp [← none])
    rw [value, nothing]
    rfl
  | _ => exact tells

/-- Where a field is left out, it has its default before anything is read. -/
theorem value_of_default? {field : DestinationField} {default : Json.Value}
    (known : field.default? = some default) (simpleName route : String) :
    field.value { simpleName := simpleName, route := route } = default := by
  -- The name and the route have no default, and the others are those of the record.
  cases field with
  | simpleName => exact absurd known nofun
  | route => exact absurd known nofun
  | _ => exact Option.some.inj known

/-- A record that has one field from a destination. -/
def copied (destination record : Destination) : DestinationField → Destination
  | .simpleName => { record with simpleName := destination.simpleName }
  | .route => { record with route := destination.route }
  | .graphRoute => { record with graphRoute := destination.graphRoute }
  | .isStart => { record with isStart := destination.isStart }
  | .optIns => { record with optIns := destination.optIns }
  | .sourceIds => { record with sourceIds := destination.sourceIds }

/-- The field that is copied is that of the destination. -/
theorem value_copied_self (destination record : Destination) (field : DestinationField) :
    field.value (field.copied destination record) = field.value destination := by
  -- The field is the one that is set.
  cases field <;> rfl

/-- The other fields are those of the record. -/
theorem value_copied_of_ne {field other : DestinationField} (apart : other ≠ field)
    (destination record : Destination) :
    other.value (field.copied destination record) = other.value record := by
  -- Each field is a part of the record of its own.
  cases field <;> cases other <;> first | rfl | exact absurd rfl apart

end DestinationField

namespace Manifest

/-- Texts are read back from the array that lists them. -/
@[simp] theorem texts?_ofTexts (texts : List String) : texts? (.ofTexts texts) = some texts := by
  -- Each item is read as the text that it was made from.
  rw [Json.Value.ofTexts, texts?, mapM_eq_some_iff, List.map_map]
  rfl

/-- A value that tells of a field is read as what the destination has there. -/
theorem put?_of_tells {destination : Destination} {field : DestinationField} {told : Json.Value}
    (tells : field.Tells destination told) (record : Destination) :
    field.put? told record = some (field.copied destination record) := by
  cases field with
  | optIns =>
    -- Names that are listed otherwise still make the same set.
    obtain ⟨names, rfl, same⟩ := tells
    have read : NameSet.ofList names = destination.optIns :=
      NameSet.eq_of_mem_iff fun name => NameSet.mem_ofList.trans (same name)
    simp [DestinationField.put?, DestinationField.copied, read]
  | sourceIds =>
    -- Sources are a list, so they have to be as they were.
    rw [show told = .ofTexts destination.sourceIds from tells]
    simp [DestinationField.put?, DestinationField.copied]
  | _ =>
    cases tells
    rfl

/-- Reading a value that tells of a field puts that field, and no other. -/
theorem puts_of_tells {destination : Destination} {field : DestinationField} {told : Json.Value}
    (tells : field.Tells destination told) :
    Record.Puts (fun field record => field.value record) destination field
      fun record => field.put? told record :=
  -- Reading the value back gives the field alone, as writing it told.
  fun record => ⟨field.copied destination record, put?_of_tells tells record,
    field.value_copied_self destination record,
    fun _ apart => DestinationField.value_copied_of_ne apart destination record⟩

end Manifest

end Navigation
