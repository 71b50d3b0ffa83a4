import Navigation.Config.Document
import Navigation.Proofs.Outcome
import Navigation.Proofs.Path

/-! Valid settings: what is checked of them, and that files can be named after them. -/

namespace Navigation.Config

open Outcome (bind_eq_ok_iff map_eq_ok_iff)

/-- A demand is satisfied exactly if its condition is met. -/
@[simp] theorem demand_eq_ok_iff {met : Bool} {field value reason : String} :
    demand met field value reason = .ok () ↔ met = true := by
  -- A demand is met or is an error.
  cases met <;> simp [demand]

/-- A demand for an identifier is satisfied by identifiers. -/
@[simp] theorem demandIdentifier_eq_ok_iff {field value : String} :
    demandIdentifier field value = .ok () ↔ isIdentifier value.toList = true :=
  demand_eq_ok_iff

/-- What validation accepts. -/
structure Valid (config : Config) : Prop where
  package : isPackage config.output.package.toList = true
  aggregateName : isIdentifier config.output.aggregateName.toList = true
  sealedDestinationName : isIdentifier config.output.sealedDestinationName.toList = true
  graphType : isIdentifier config.naming.graphType.toList = true
  graphsObject : isIdentifier config.naming.graphsObject.toList = true
  names_ne : config.output.aggregateName ≠ config.output.sealedDestinationName
  fileExtension : isExtension config.output.fileExtension.toList = true

/-- Validation accepts exactly the valid settings. -/
theorem validate_eq_ok_iff {config : Config} : config.validate = .ok () ↔ config.Valid := by
  rw [validate]
  constructor
  · -- Each demand is made only after those before it are satisfied.
    intro accepted
    obtain ⟨_, package, accepted⟩ := bind_eq_ok_iff.1 accepted
    obtain ⟨_, aggregate, accepted⟩ := bind_eq_ok_iff.1 accepted
    obtain ⟨_, sealedName, accepted⟩ := bind_eq_ok_iff.1 accepted
    obtain ⟨_, graphType, accepted⟩ := bind_eq_ok_iff.1 accepted
    obtain ⟨_, graphsObject, accepted⟩ := bind_eq_ok_iff.1 accepted
    obtain ⟨_, differ, extension⟩ := bind_eq_ok_iff.1 accepted
    exact ⟨demand_eq_ok_iff.1 package, demandIdentifier_eq_ok_iff.1 aggregate,
      demandIdentifier_eq_ok_iff.1 sealedName, demandIdentifier_eq_ok_iff.1 graphType,
      demandIdentifier_eq_ok_iff.1 graphsObject, by simpa using demand_eq_ok_iff.1 differ,
      demand_eq_ok_iff.1 extension⟩
  · -- The demands are met one by one, in the order they are made in.
    intro valid
    refine bind_eq_ok_iff.2 ⟨(), demand_eq_ok_iff.2 valid.package, ?_⟩
    refine bind_eq_ok_iff.2 ⟨(), demandIdentifier_eq_ok_iff.2 valid.aggregateName, ?_⟩
    refine bind_eq_ok_iff.2 ⟨(), demandIdentifier_eq_ok_iff.2 valid.sealedDestinationName, ?_⟩
    refine bind_eq_ok_iff.2 ⟨(), demandIdentifier_eq_ok_iff.2 valid.graphType, ?_⟩
    refine bind_eq_ok_iff.2 ⟨(), demandIdentifier_eq_ok_iff.2 valid.graphsObject, ?_⟩
    refine bind_eq_ok_iff.2 ⟨(), demand_eq_ok_iff.2 ?_, demand_eq_ok_iff.2 valid.fileExtension⟩
    simpa using valid.names_ne

/-- The defaults are valid. -/
theorem valid_default : Valid {} :=
  validate_eq_ok_iff.1 (by decide +kernel)

/-- Seeing the paths of settings from a directory does not matter to their validity. -/
theorem Valid.resolved {config : Config} (valid : config.Valid) (base : Path) :
    (config.resolved base).Valid :=
  ⟨valid.package, valid.aggregateName, valid.sealedDestinationName, valid.graphType,
    valid.graphsObject, valid.names_ne, valid.fileExtension⟩

/-- Switches of the environment do not matter to the validity of settings. -/
theorem Valid.overrideFrom {config : Config} (valid : config.Valid)
    (lookup : String → Option String) : (config.overrideFrom lookup).1.Valid := by
  -- Whichever switches are overridden, nothing else of the settings is changed.
  have switched (capabilities : Capabilities) :
      Valid { config with capabilities := capabilities } :=
    ⟨valid.package, valid.aggregateName, valid.sealedDestinationName, valid.graphType,
      valid.graphsObject, valid.names_ne, valid.fileExtension⟩
  rw [Config.overrideFrom]
  cases overridden lookup animationVariable config.capabilities.animation with
  | error error => exact valid
  | ok animation =>
    simp only
    cases overridden lookup materialVariable config.capabilities.material with
    | error error => exact switched _
    | ok material => exact switched _

/-- The settings that a text holds, whether they are valid or not. -/
def written? (source : String) : Option Config :=
  (Toml.parse? source).bind (Field.overlay fields {})

/-- Settings are validated before they are handed out. -/
theorem parse_eq (source : String) :
    parse source =
      match written? source with
      | none => .error .malformed
      | some config => config.validate.map fun _ => config := by
  -- Reading fails where the document is no TOML or has no settings, and then they are checked.
  rw [parse, written?]
  cases Toml.parse? source with
  | none => rfl
  | some entries =>
    rcases Option.eq_none_or_eq_some (Field.overlay fields {} entries) with
      overlaid | ⟨config, overlaid⟩
    · simp only [ofEntries, Option.bind_some, overlaid]
    · simp only [ofEntries, Option.bind_some, overlaid]
      cases config.validate <;> rfl

/-- Settings that were parsed are valid. -/
theorem valid_of_parse {source : String} {config : Config} (parsed : parse source = .ok config) :
    config.Valid := by
  -- Settings are given only if their check has passed.
  rw [parse_eq] at parsed
  cases held : written? source with
  | none => simp [held] at parsed
  | some settings =>
    simp only [held] at parsed
    obtain ⟨_, valid, rfl⟩ := map_eq_ok_iff.1 parsed
    exact validate_eq_ok_iff.1 valid

/-- An identifier has no slashes. -/
theorem slash_not_mem_of_isIdentifier {text : List Char} (identifier : isIdentifier text = true) :
    '/' ∉ text := by
  -- A slash is neither a letter nor a digit nor an underscore.
  intro member
  cases text with
  | nil => exact absurd member List.not_mem_nil
  | cons c rest =>
    rw [isIdentifier, Bool.and_eq_true, List.all_eq_true] at identifier
    rcases List.mem_cons.1 member with rfl | inside
    · exact absurd identifier.1 (by decide)
    · exact absurd (identifier.2 _ inside) (by decide)

/-- A file can be named by an identifier, a dot, and an extension. -/
theorem isName_of_isIdentifier {name fileExtension : String}
    (identifier : isIdentifier name.toList = true)
    (ending : isExtension fileExtension.toList = true) :
    Path.IsName (name ++ "." ++ fileExtension) := by
  rw [isExtension, Bool.and_eq_true, List.all_eq_true] at ending
  -- The extension has letters and digits only, so no part of the name has slashes.
  have plain : '/' ∉ fileExtension.toList := fun member => absurd (ending.2 _ member) (by decide)
  constructor
  · intro nothing
    simpa [String.toList_append] using congrArg String.toList nothing
  · simp [String.toList_append, slash_not_mem_of_isIdentifier identifier, plain]

end Navigation.Config
