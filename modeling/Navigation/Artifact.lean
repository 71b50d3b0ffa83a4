/-! Generated files, and the sinks they are handed to. -/

namespace Navigation

/-- A generated file, addressed by its package and its name. -/
structure Artifact where
  package : String
  name : String
  /-- The sources of everything that went into the file. -/
  sourceIds : List String
  contents : String
  deriving DecidableEq

/-- A place artifacts are written to: each write may fail, and may change the place either way. -/
abbrev Sink (σ ε : Type) :=
  Artifact → σ → Except ε Unit × σ

/-- What became of artifacts handed to a sink: those written, the failure, and the place after. -/
structure Delivery (σ ε : Type) where
  written : List Artifact
  failure? : Option (String × ε)
  place : σ

/-- Hands artifacts to a sink one after the other, up to the first that cannot be written. -/
def Sink.deliver {σ ε : Type} (sink : Sink σ ε) : List Artifact → σ → Delivery σ ε
  | [], place => ⟨[], none, place⟩
  | artifact :: rest, place =>
    match sink artifact place with
    | (.ok (), place) =>
      let later := deliver sink rest place
      { later with written := artifact :: later.written }
    | (.error cause, place) => ⟨[], some (artifact.name, cause), place⟩

/-- Artifacts kept in memory, in the order they were written. -/
structure Store where
  artifacts : List Artifact := []
  deriving DecidableEq

namespace Store

/-- The first artifact that was stored under a name. -/
def get? (store : Store) (name : String) : Option Artifact :=
  store.artifacts.find? (·.name == name)

/-- Stores an artifact behind all others. -/
def push (store : Store) (artifact : Artifact) : Store :=
  ⟨store.artifacts ++ [artifact]⟩

end Store

/-- A store together with the number of writes that were tried on it. -/
structure Shelf where
  store : Store := {}
  tried : Nat := 0
  deriving DecidableEq

/-- The sink of a store that refuses some writes, by their number counted from zero. -/
def Shelf.sink {ε : Type} (refuses : Nat → Option ε) : Sink Shelf ε := fun artifact shelf =>
  match refuses shelf.tried with
  | some cause => (.error cause, { shelf with tried := shelf.tried + 1 })
  | none => (.ok (), ⟨shelf.store.push artifact, shelf.tried + 1⟩)

end Navigation
