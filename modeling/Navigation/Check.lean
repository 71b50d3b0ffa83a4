import Navigation.ErrorTree
import Navigation.Grouping
import Navigation.Identifier
import Navigation.Token

/-! Checks of grouped destinations: each lists its faults, and faults are gathered in a tree. -/

namespace Navigation

/-- A fault, and the graph it is charged to. -/
structure Fault where
  route : String
  error : SetupError
  deriving DecidableEq

/-- Adds faults to a tree one after the other. -/
def ErrorTree.charge (faults : List Fault) (tree : ErrorTree) : ErrorTree :=
  faults.foldl (fun tree fault => tree.addFor fault.route fault.error) tree

namespace Check

/-- Faults of the graphs' identifiers, which must be neither empty nor taken.

`taken` holds the identifiers met so far, each with the route that had it first. -/
def namingFaults (taken : List (String × String)) : List Group → List Fault
  | [] => []
  | group :: rest =>
    let identifier := Identifier.ofRoute group.route
    if identifier = "" then
      ⟨group.route, .emptyIdentifier group.route⟩ :: namingFaults taken rest
    else
      match taken.lookup identifier with
      | some first =>
        ⟨group.route, .duplicateIdentifier identifier first group.route⟩ :: namingFaults taken rest
      | none => namingFaults ((identifier, group.route) :: taken) rest

/-- Faults of one group's texts, none of which may hold a template token. -/
def tokenFaults (group : Group) : List Fault :=
  (group.values.filter Token.occursIn).map fun value =>
    ⟨group.route, .tokenInValue group.route value⟩

/-- Faults of one group's start, which must be exactly one destination. -/
def startFaults (group : Group) : List Fault :=
  match group.start with
  | .ok _ => []
  | .error error => [⟨group.route, error⟩]

/-- Checks the identifier of every graph, and adds what is wrong to a tree. -/
def naming (grouping : Grouping) (tree : ErrorTree) : ErrorTree :=
  tree.charge (namingFaults [] grouping.groups)

/-- Checks every text for template tokens, and adds what is wrong to a tree. -/
def tokens (grouping : Grouping) (tree : ErrorTree) : ErrorTree :=
  tree.charge (grouping.groups.flatMap tokenFaults)

/-- Checks the start of every graph, and adds what is wrong to a tree. -/
def starts (grouping : Grouping) (tree : ErrorTree) : ErrorTree :=
  tree.charge (grouping.groups.flatMap startFaults)

/-- Everything that is wrong with a grouping: identifiers first, then texts, then starts. -/
def all (grouping : Grouping) : ErrorTree :=
  starts grouping (tokens grouping (naming grouping ErrorTree.empty))

end Check

end Navigation
