import Navigation.Generation

/-! Runs that share a store: what each of them hands over, and what the store holds at any time. -/

namespace Navigation

/-- A place, with all that was handed over to be written to it. -/
structure Journal (σ : Type) where
  calls : List Artifact
  place : σ

/-- A sink that notes what it is called with, whether the write succeeds or not. -/
def Sink.recorded {σ ε : Type} (sink : Sink σ ε) : Sink (Journal σ) ε := fun artifact journal =>
  let (outcome, place) := sink artifact journal.place
  (outcome, ⟨journal.calls ++ [artifact], place⟩)

/-- What one run is asked for. -/
structure Request where
  destinations : List Destination
  capabilities : Capabilities
  templates : TemplateSet
  names : OutputNames

namespace Request

/-- The artifacts of a request, or all that is wrong with its destinations. -/
def generate (request : Request) : Except ErrorTree Generated :=
  Navigation.generate request.destinations request.capabilities request.templates request.names

/-- The run of a request. -/
def process {σ ε : Type} (sink : Sink σ ε) (request : Request) (place : σ) : Processed σ ε :=
  Navigation.process sink request.destinations request.capabilities request.templates request.names
    place

end Request

/-- The runs of requests one after the other, each begun where the one before it ended. -/
def processAll {σ ε : Type} (sink : Sink σ ε) : List Request → σ → List (Processed σ ε)
  | [], _ => []
  | request :: rest, place =>
    let run := request.process sink place
    run :: processAll sink rest run.place

/-- The place as the runs of requests leave it. -/
def placeAfter {σ ε : Type} (sink : Sink σ ε) : List Request → σ → σ
  | [], place => place
  | request :: rest, place => placeAfter sink rest (request.process sink place).place

section

variable {σ ε : Type} (sink : Sink σ ε)

/-- More requests go on where the others ended. -/
theorem placeAfter_append (earlier later : List Request) (place : σ) :
    placeAfter sink (earlier ++ later) place =
      placeAfter sink later (placeAfter sink earlier place) := by
  -- The first run leaves the place that all later ones start from.
  induction earlier generalizing place with
  | nil => rfl
  | cons request rest ih => exact ih _

/-- Every run of a history is the run of its request, at the place that those before it reached. -/
theorem getElem?_processAll (earlier : List Request) (request : Request) (later : List Request)
    (place : σ) :
    (processAll sink (earlier ++ request :: later) place)[earlier.length]? =
      some (request.process sink (placeAfter sink earlier place)) := by
  -- The first run leaves the place that all later ones start from.
  induction earlier generalizing place with
  | nil => rfl
  | cons first rest ih => exact ih _

end

section

variable {ε : Type} {refuses : Nat → Option ε} {request : Request} {before : Journal Shelf}

/-- Whether the writes a store counts are the calls that were noted. -/
def Journal.Counted (journal : Journal Shelf) : Prop :=
  journal.place.tried = journal.calls.length

/-- The journal of a store that nothing was handed over to yet. -/
def Journal.blank : Journal Shelf :=
  ⟨[], {}⟩

/-- The ways a run ends, whose two writes have the numbers behind those of the calls before it. -/
inductive Request.Ends (refuses : Nat → Option ε) (request : Request) (before : Journal Shelf) :
    Processed (Journal Shelf) ε → Prop where
  /-- The destinations have faults, and the sink is not called. -/
  | faulty {faults : ErrorTree} (failed : request.generate = .error faults) :
      Ends refuses request before ⟨.error (.setup faults), [], before⟩
  /-- The aggregate is refused; nothing is stored, and the other artifact is not handed over. -/
  | refused {generated : Generated} {cause : ε} (made : request.generate = .ok generated)
      (first : refuses before.calls.length = some cause) :
      Ends refuses request before
        { result := .error (.output generated.aggregate.name cause)
          written := []
          place :=
            { calls := before.calls ++ [generated.aggregate]
              place := ⟨before.place.store, before.calls.length + 1⟩ } }
  /-- The aggregate is stored, and the sealed destination is refused. -/
  | halved {generated : Generated} {cause : ε} (made : request.generate = .ok generated)
      (first : refuses before.calls.length = none)
      (second : refuses (before.calls.length + 1) = some cause) :
      Ends refuses request before
        { result := .error (.output generated.sealedDestination.name cause)
          written := [generated.aggregate]
          place :=
            { calls := before.calls ++ [generated.aggregate, generated.sealedDestination]
              place := ⟨⟨before.place.store.artifacts ++ [generated.aggregate]⟩,
                before.calls.length + 2⟩ } }
  /-- Both artifacts are stored, in their order. -/
  | delivered {generated : Generated} (made : request.generate = .ok generated)
      (first : refuses before.calls.length = none)
      (second : refuses (before.calls.length + 1) = none) :
      Ends refuses request before
        { result := .ok generated
          written := [generated.aggregate, generated.sealedDestination]
          place :=
            { calls := before.calls ++ [generated.aggregate, generated.sealedDestination]
              place := ⟨⟨before.place.store.artifacts ++
                [generated.aggregate, generated.sealedDestination]⟩, before.calls.length + 2⟩ } }

/-- Every run ends in one of these ways. -/
theorem Request.ends_process (refuses : Nat → Option ε) (request : Request)
    (counted : before.Counted) :
    request.Ends refuses before (request.process (Shelf.sink refuses).recorded before) := by
  rw [Journal.Counted] at counted
  cases made : request.generate with
  | error faults =>
    -- Faulty destinations end the request before any call.
    have failed : Navigation.generate request.destinations request.capabilities request.templates
        request.names = .error faults := made
    simp only [process, Navigation.process, failed]
    exact .faulty made
  | ok generated =>
    have built : Navigation.generate request.destinations request.capabilities request.templates
        request.names = .ok generated := made
    -- The first write has the number of the calls so far, and the second the one behind it.
    simp only [process, Navigation.process, built, Generated.artifacts, Sink.deliver, Sink.recorded,
      Shelf.sink, counted]
    cases first : refuses before.calls.length with
    | some cause => exact .refused made first
    | none =>
      cases second : refuses (before.calls.length + 1) with
      | some cause => simpa [second, Store.push] using Ends.halved made first second
      | none => simpa [second, Store.push] using Ends.delivered made first second

/-- A run succeeds exactly if there are artifacts and both of their writes succeed. -/
theorem Request.Ends.result_eq_ok_iff {run : Processed (Journal Shelf) ε}
    (ends : request.Ends refuses before run) (generated : Generated) :
    run.result = .ok generated ↔ request.generate = .ok generated ∧
      refuses before.calls.length = none ∧ refuses (before.calls.length + 1) = none := by
  -- Of the four ways to end, only one gives the files.
  cases ends with
  | faulty failed => simp [failed]
  | refused made first => simp [first]
  | halved made first second => simp [second]
  | delivered made first second => simp [made, first, second]

/-- A run adds what it wrote to the store, behind all that was there. -/
theorem Request.Ends.artifacts {run : Processed (Journal Shelf) ε}
    (ends : request.Ends refuses before run) :
    run.place.place.store.artifacts = before.place.store.artifacts ++ run.written := by
  -- Each way to end says what was stored.
  cases ends <;> simp

/-- A run counts its calls. -/
theorem Request.Ends.counted {run : Processed (Journal Shelf) ε}
    (ends : request.Ends refuses before run) (counted : before.Counted) :
    run.place.Counted := by
  -- A call counts whether it is refused or not.
  cases ends with
  | faulty failed => exact counted
  | refused made first => simp [Journal.Counted]
  | halved made first second => simp [Journal.Counted]
  | delivered made first second => simp [Journal.Counted]

/-- Calls are counted throughout a history. -/
theorem counted_placeAfter (refuses : Nat → Option ε) (requests : List Request)
    (counted : before.Counted) :
    (placeAfter (Shelf.sink refuses).recorded requests before).Counted := by
  -- One run keeps the count, whichever way it ends.
  induction requests generalizing before with
  | nil => exact counted
  | cons request rest ih => exact ih ((request.ends_process refuses counted).counted counted)

/-- The store holds what the runs of a history have written, behind what was there before. -/
theorem artifacts_placeAfter (refuses : Nat → Option ε) (requests : List Request)
    (counted : before.Counted) :
    (placeAfter (Shelf.sink refuses).recorded requests before).place.store.artifacts =
      before.place.store.artifacts ++
        (processAll (Shelf.sink refuses).recorded requests before).flatMap (·.written) := by
  -- The first run appends what it wrote, and those behind it append to that.
  induction requests generalizing before with
  | nil => simp [placeAfter, processAll]
  | cons request rest ih =>
    have ends := request.ends_process refuses counted
    rw [placeAfter, ih (ends.counted counted), ends.artifacts, processAll, List.flatMap_cons,
      List.append_assoc]

/-- A look-up finds the earliest artifact of a name. -/
theorem Store.get?_eq_some_iff {store : Store} {name : String} {artifact : Artifact} :
    store.get? name = some artifact ↔ artifact.name = name ∧
      ∃ older newer, store.artifacts = older ++ artifact :: newer ∧
        ∀ other ∈ older, other.name ≠ name := by
  -- The look-up takes the first artifact with the name, and newer ones stand behind.
  simp [get?, List.find?_eq_some_iff_append]

/-- A look-up fails exactly if no artifact has the name. -/
theorem Store.get?_eq_none_iff {store : Store} {name : String} :
    store.get? name = none ↔ ∀ artifact ∈ store.artifacts, artifact.name ≠ name := by
  -- The look-up goes through all artifacts.
  simp [get?]

/--
A store that runs share holds, at any time, what they have written, in the order they wrote it.

Whatever the runs before have come to and whichever writes are refused, the next run ends in one of
four ways and succeeds exactly if both of its writes do, and the store only ever grows at its end.
-/
theorem history_of_shared_store {ε : Type} (refuses : Nat → Option ε) (earlier : List Request) :
    let sink := (Shelf.sink refuses).recorded
    let reached := placeAfter sink earlier Journal.blank
    let stored := (processAll sink earlier Journal.blank).flatMap (·.written)
    (∀ request later, ∃ run,
        (processAll sink (earlier ++ request :: later) Journal.blank)[earlier.length]? = some run ∧
          request.Ends refuses reached run ∧
          ∀ generated, run.result = .ok generated ↔ request.generate = .ok generated ∧
            refuses reached.calls.length = none ∧ refuses (reached.calls.length + 1) = none) ∧
      (∀ later, reached.place.store.artifacts <+:
        (placeAfter sink (earlier ++ later) Journal.blank).place.store.artifacts) ∧
      reached.place.store.artifacts = stored ∧
      (∀ name artifact, reached.place.store.get? name = some artifact ↔ artifact.name = name ∧
        ∃ older newer, stored = older ++ artifact :: newer ∧
          ∀ other ∈ older, other.name ≠ name) ∧
      ∀ name, reached.place.store.get? name = none ↔
        ∀ artifact ∈ stored, artifact.name ≠ name := by
  intro sink reached stored
  -- Before the first run nothing was called and nothing is stored.
  have blank : Journal.blank.Counted := rfl
  have counted : reached.Counted := counted_placeAfter refuses earlier blank
  have artifacts : reached.place.store.artifacts = stored :=
    artifacts_placeAfter refuses earlier blank
  refine ⟨?runs, ?grows, artifacts, ?found, ?absent⟩
  case runs =>
    intro request later
    have ends := request.ends_process refuses counted
    exact ⟨_, getElem?_processAll sink earlier request later _, ends, ends.result_eq_ok_iff⟩
  case grows =>
    -- The later runs begin where these have ended.
    intro later
    rw [placeAfter_append, artifacts_placeAfter refuses later counted]
    exact List.prefix_append _ _
  case found =>
    intro name artifact
    rw [Store.get?_eq_some_iff, artifacts]
  case absent =>
    intro name
    rw [Store.get?_eq_none_iff, artifacts]

end

end Navigation
