import Navigation.Destination
import Navigation.Json.Reader

/-! Manifests: destinations as JSON, one object for each, in which defaults may be left out. -/

namespace Navigation

namespace Manifest

/-- The text that a value holds. -/
def text? : Json.Value → Option String
  | .text value? => value?
  | _ => none

/-- The switch that a value holds. -/
def flag? : Json.Value → Option Bool
  | .flag value => some value
  | _ => none

/-- The texts that a value lists. -/
def texts? : Json.Value → Option (List String)
  | .array items => items.mapM text?
  | _ => none

end Manifest

/-- The fields of a destination. -/
inductive DestinationField where
  | simpleName
  | route
  | graphRoute
  | isStart
  | optIns
  | sourceIds
  deriving DecidableEq

namespace DestinationField

/-- Every field, in the order in which an array gives their values. -/
def all : List DestinationField :=
  [.simpleName, .route, .graphRoute, .isStart, .optIns, .sourceIds]

/-- The key of a field in a manifest. -/
def key : DestinationField → String
  | .simpleName => "simple_name"
  | .route => "route"
  | .graphRoute => "nav_graph_route"
  | .isStart => "is_start_destination"
  | .optIns => "require_opt_in_annotation_names"
  | .sourceIds => "source_ids"

/-- The field with a key. -/
def ofKey? (key : String) : Option DestinationField :=
  all.find? (·.key == key)

/-- Whether a destination has to give a field. -/
def isRequired : DestinationField → Bool
  | .simpleName | .route => true
  | _ => false

/-- Reads a field's value into a destination. -/
def put? (value : Json.Value) (destination : Destination) : DestinationField → Option Destination
  | .simpleName =>
    (Manifest.text? value).map fun value => { destination with simpleName := value }
  | .route => (Manifest.text? value).map fun value => { destination with route := value }
  | .graphRoute => (Manifest.text? value).map fun value => { destination with graphRoute := value }
  | .isStart => (Manifest.flag? value).map fun value => { destination with isStart := value }
  | .optIns =>
    (Manifest.texts? value).map fun names => { destination with optIns := NameSet.ofList names }
  | .sourceIds => (Manifest.texts? value).map fun ids => { destination with sourceIds := ids }

end DestinationField

namespace Manifest

/-- Reads fields one after the other, none of them twice, and all that are required. -/
def assemble? (given : List (DestinationField × Json.Value)) : Option Destination :=
  let fields := given.map (·.1)
  if fields.Nodup ∧ ∀ field ∈ DestinationField.all, field.isRequired → field ∈ fields then
    given.foldlM (fun destination pair => pair.1.put? pair.2 destination)
      { simpleName := "", route := "" }
  else none

/-- The fields among an object's entries; other keys mean nothing, but have to be texts. -/
def known? : List (Option String × Json.Value) → Option (List (DestinationField × Json.Value))
  | [] => some []
  | (none, _) :: _ => none
  | (some key, value) :: rest =>
    match DestinationField.ofKey? key with
    | some field => (known? rest).map ((field, value) :: ·)
    | none => known? rest

/-- Reads a destination, given as an object or as an array of its fields' values in order. -/
def destination? : Json.Value → Option Destination
  | .object entries => (known? entries).bind assemble?
  | .array items =>
    if items.length ≤ DestinationField.all.length then assemble? (DestinationField.all.zip items)
    else none
  | _ => none

/-- The destinations that a JSON value lists. -/
def decode? : Json.Value → Option (List Destination)
  | .array items => items.mapM destination?
  | _ => none

/-- The destinations that a text lists. -/
def parse? (source : String) : Option (List Destination) :=
  (Json.parse? source).bind decode?

/-- An entry of an object, unless there is nothing to say. -/
def entryUnless (isDefault : Bool) (field : DestinationField) (value : Json.Value) :
    List (Option String × Json.Value) :=
  if isDefault then [] else [(some field.key, value)]

/-- A destination as an object, which leaves empty collections out. -/
def encodeDestination (destination : Destination) : Json.Value :=
  .object
    ([(some DestinationField.simpleName.key, .ofText destination.simpleName),
      (some DestinationField.route.key, .ofText destination.route),
      (some DestinationField.graphRoute.key, .ofText destination.graphRoute),
      (some DestinationField.isStart.key, .flag destination.isStart)] ++
    entryUnless destination.optIns.isEmpty .optIns (.ofTexts destination.optIns.names) ++
    entryUnless destination.sourceIds.isEmpty .sourceIds (.ofTexts destination.sourceIds))

/-- Destinations as a JSON value. -/
def encode (destinations : List Destination) : Json.Value :=
  .array (destinations.map encodeDestination)

end Manifest

end Navigation
