import Navigation.Toml.Value

/-! How TOML tables grow: which extensions a document may make, by headers and by dotted keys. -/

namespace Navigation.Toml

namespace Entries

/-- Changes the table at the end of a path, making the tables that are missing on the way.

Tables between braces are closed for good. A dotted key, other than a header, may not enter a table
that has a header of its own. In an array of tables the path leads on from the last one. -/
def alterAt? (dotted : Bool) (change : Origin → Entries → Option Entries) :
    List String → Origin → Entries → Option Entries
  | [], origin, entries => change origin entries
  | key :: path, _, entries =>
    match entries.lookup key with
    | none =>
      let made := if dotted then Origin.dotted else Origin.implied
      (alterAt? dotted change path made []).map fun inner =>
        entries.set key (.table made inner)
    | some (.table origin inner) =>
      if origin = .inline ∨ (dotted ∧ origin = .header) then none
      else
        (alterAt? dotted change path origin inner).map fun inner =>
          entries.set key (.table origin inner)
    | some (.array true items) =>
      match items.getLast? with
      | some (.table origin inner) =>
        (alterAt? dotted change path origin inner).map fun inner =>
          entries.set key (.array true (items.dropLast ++ [.table origin inner]))
      | _ => none
    | some _ => none

/-- Gives a new key its value; the table has to be dotted exactly if the key is reached by dots. -/
def assign? (dotted : Bool) (key : String) (value : Value) (origin : Origin) (entries : Entries) :
    Option Entries :=
  if (origin == .dotted) != dotted then none
  else if (entries.lookup key).isSome then none
  else some (entries.set key value)

/-- Gives a key, which may be dotted, a value in a table. -/
def put? (keys : List String) (value : Value) (origin : Origin) (entries : Entries) :
    Option Entries :=
  match keys.getLast? with
  | none => none
  | some key =>
    let path := keys.dropLast
    let dotted := !path.isEmpty
    alterAt? dotted (assign? dotted key value) path origin entries

/-- Opens a table by its header, which a table that is only passed through can still be given. -/
def open? (keys : List String) (entries : Entries) : Option Entries :=
  match keys.getLast? with
  | none => none
  | some key =>
    alterAt? false
      (fun _ inner =>
        match inner.lookup key with
        | none => some (inner.set key (.table .header []))
        | some (.table .implied found) => some (inner.set key (.table .header found))
        | some _ => none)
      keys.dropLast .header entries

/-- Adds a table to an array of tables by a header; the first one makes the array. -/
def append? (keys : List String) (entries : Entries) : Option Entries :=
  match keys.getLast? with
  | none => none
  | some key =>
    alterAt? false
      (fun _ inner =>
        match inner.lookup key with
        | none => some (inner.set key (.array true [.table .header []]))
        | some (.array true items) =>
          some (inner.set key (.array true (items ++ [.table .header []])))
        | some _ => none)
      keys.dropLast .header entries

end Entries

end Navigation.Toml
