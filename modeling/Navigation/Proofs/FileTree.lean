import Navigation.FileTree
import Navigation.Proofs.Outcome

/-! What new directories and written files change in a file tree, and that all else stays. -/

namespace Navigation.FileTree

open Outcome (bind_eq_ok_iff map_eq_ok_iff)

/-! ### One place replaced -/

/-- The first of some listed places is found there, and the others behind it. -/
theorem lookup_cons_place (first other : Location) (entry : Entry)
    (rest : List (Location × Entry)) :
    ((first, entry) :: rest).lookup other =
      if other = first then some entry else rest.lookup other := by
  -- The first entry is the one that is asked for, or it is passed.
  rw [List.lookup_cons]
  by_cases here : other = first
  · simp [here]
  · have passed : (other == first) = false := by simpa using here
    simp [passed, here]

/-- Replacing what one place holds leaves all other places alone. -/
theorem lookup_replace (location other : Location) (entry : Entry)
    (entries : List (Location × Entry)) :
    (replace location entry entries).lookup other =
      if other = location then some entry else entries.lookup other := by
  -- The place is replaced where it is listed, or added behind all others.
  induction entries with
  | nil => exact lookup_cons_place location other entry []
  | cons pair rest ih =>
    obtain ⟨first, old⟩ := pair
    rw [replace]
    by_cases here : first = location
    · subst here
      simp only [if_true, lookup_cons_place]
      by_cases same : other = first
      · simp only [if_pos same]
      · simp only [if_neg same]
    · simp only [if_neg here, lookup_cons_place, ih]
      by_cases same : other = first
      · -- What is listed here is another place.
        have apart : other ≠ location := fun equal => here (same.symm.trans equal)
        simp only [if_pos same, if_neg apart]
      · simp only [if_neg same]

/-- A place below the root directory holds what it is set to, and all others what they held. -/
theorem entry_set {location : Location} (below : location ≠ []) (tree : FileTree) (entry : Entry)
    (other : Location) :
    entry? (tree.set location entry) other =
      if other = location then some entry else tree.entry? other := by
  -- The root directory is no such place, and is never looked up.
  by_cases root : other = []
  · subst root
    rw [if_neg (Ne.symm below)]
    rfl
  · simp [root, entry?, set, lookup_replace]

/-! ### Finding a place -/

/-- What a change keeps if it removes no directory and does not move the working directory. -/
structure Keeps (before after : FileTree) : Prop where
  here : after.here = before.here
  directories : ∀ location, before.entry? location = some .directory →
    after.entry? location = some .directory

/-- Names lead on to where they led, as long as the directories are there. -/
theorem Keeps.walk {before after : FileTree} (keeps : Keeps before after) {start : Location}
    {names : List String} {location : Location} (led : before.walk start names = .ok location) :
    after.walk start names = .ok location := by
  -- Each name stays here, leads one level up, or into a directory that is kept.
  induction names generalizing start with
  | nil => exact led
  | cons name rest ih =>
    rw [FileTree.walk] at led ⊢
    by_cases dot : name = "."
    · rw [if_pos dot] at led ⊢
      exact ih led
    · rw [if_neg dot] at led ⊢
      by_cases up : name = ".."
      · rw [if_pos up] at led ⊢
        exact ih led
      · rw [if_neg up] at led ⊢
        -- The walk goes on only through a directory, and directories are kept.
        cases entry : before.entry? (start ++ [name]) with
        | none => simp [entry] at led
        | some kind =>
          cases kind with
          | file contents => simp [entry] at led
          | directory =>
            simp only [entry] at led
            simp only [keeps.directories _ entry]
            exact ih led

/-- A path names a place by its last name, in the directory that the other names lead to. -/
theorem locate_eq_named_iff {tree : FileTree} {path : Path} {location : Location} :
    tree.locate path = .ok (.named location) ↔
      (¬ path.chars.contains '\x00' = true ∧ ¬ path.chars.isEmpty = true) ∧
        ∃ directory last, path.names.getLast? = some last ∧ ¬ (last = "." ∨ last = "..") ∧
          tree.walk (if path.isAbsolute then [] else tree.here) path.names.dropLast =
            .ok directory ∧ directory ++ [last] = location := by
  rw [locate]
  -- The conditions are asked for in this order, and each one that fails ends the search.
  by_cases ended : path.chars.contains '\x00' = true
  · rw [if_pos ended]
    exact iff_of_false nofun fun all => all.1.1 ended
  · rw [if_neg ended]
    by_cases empty : path.chars.isEmpty = true
    · rw [if_pos empty]
      exact iff_of_false nofun fun all => all.1.2 empty
    · rw [if_neg empty]
      cases path.names.getLast? with
      | none => simp
      | some last =>
        by_cases dots : last = "." ∨ last = ".."
        · -- A path that ends in dots means the directory it leads to.
          simp only [if_pos dots]
          refine iff_of_false (fun found => ?_) ?_
          · obtain ⟨directory, -, same⟩ := map_eq_ok_iff.1 found
            exact absurd same nofun
          · rintro ⟨-, directory, other, same, plain, -⟩
            exact plain (Option.some.inj same ▸ dots)
        · simp only [if_neg dots, map_eq_ok_iff, Target.named.injEq, Option.some.injEq]
          constructor
          · rintro ⟨directory, led, place⟩
            exact ⟨⟨ended, empty⟩, directory, last, rfl, dots, led, place⟩
          · rintro ⟨-, directory, _, rfl, -, led, place⟩
            exact ⟨directory, led, place⟩

/-- A path goes on to name the place it named. -/
theorem Keeps.locate {before after : FileTree} (keeps : Keeps before after) {path : Path}
    {location : Location} (found : before.locate path = .ok (.named location)) :
    after.locate path = .ok (.named location) := by
  -- Only the walk along the path looks at the tree.
  obtain ⟨written, directory, last, ends, plain, led, place⟩ := locate_eq_named_iff.1 found
  rw [← keeps.here] at led
  exact locate_eq_named_iff.2 ⟨written, directory, last, ends, plain, keeps.walk led, place⟩

/-- A place that a path names has a name, so it is not the root directory. -/
theorem ne_nil_of_locate {tree : FileTree} {path : Path} {location : Location}
    (found : tree.locate path = .ok (.named location)) : location ≠ [] := by
  -- A place with a name has that name as its last part.
  obtain ⟨-, directory, last, -, -, -, place⟩ := locate_eq_named_iff.1 found
  simp [← place]

/-- A place that a path names has the last name of the path. -/
theorem getLast?_of_locate {tree : FileTree} {path : Path} {location : Location}
    (found : tree.locate path = .ok (.named location)) :
    location.getLast? = path.names.getLast? := by
  -- The walk ends in the path's last name.
  obtain ⟨-, directory, last, ends, -, -, place⟩ := locate_eq_named_iff.1 found
  rw [← place, ends, List.getLast?_concat]

/-- The text of the file that a path leads to is what is read at the path. -/
theorem read_of_entry? {tree : FileTree} {path : Path} {location : Location} {text : String}
    (found : tree.locate path = .ok (.named location)) (file : path.endsInSlash = false)
    (holds : tree.entry? location = some (.file text.toUTF8)) : tree.read path = .ok text := by
  have status : tree.status path = .ok (.file text.toUTF8) := by
    simp [FileTree.status, found, holds, file, Bind.bind, Except.bind]
  -- A text that was encoded is decoded again.
  have decoded : String.fromUTF8? text.toUTF8 = some text := by
    rw [String.fromUTF8?, String.toUTF8_eq_toByteArray, dif_pos text.isValidUTF8]
    rfl
  simp only [FileTree.read, status, Bind.bind, Except.bind, decoded]

/-! ### New directories -/

/-- Whether a place holds what it held, or a directory where nothing was. -/
def Spared (before after : FileTree) (location : Location) : Prop :=
  after.entry? location = before.entry? location ∨
    before.entry? location = none ∧ after.entry? location = some .directory

namespace Spared

/-- A place that is spared twice is spared. -/
theorem trans {before between after : FileTree} {location : Location}
    (first : Spared before between location) (second : Spared between after location) :
    Spared before after location := by
  -- A directory made at first is there the second time, and stays.
  rcases first with same | ⟨absent, made⟩
  · rw [Spared, ← same]
    exact second
  · rcases second with kept | ⟨missing, -⟩
    · exact .inr ⟨absent, kept.trans made⟩
    · exact absurd (made.symm.trans missing) nofun

/-- A place that is spared holds the file or directory it held. -/
theorem kept {before after : FileTree} {location : Location}
    (spared : Spared before after location) {entry : Entry}
    (holds : before.entry? location = some entry) : after.entry? location = some entry := by
  -- A place that was spared holds what it held, or it held nothing before.
  rcases spared with same | ⟨absent, -⟩
  · exact same.trans holds
  · exact absurd (holds.symm.trans absent) nofun

end Spared

/-- A tree that holds what another one does, and beyond that directories only. -/
structure Grows (before after : FileTree) : Prop where
  here : after.here = before.here
  spares : ∀ location, Spared before after location

namespace Grows

/-- Every tree holds what it holds. -/
theorem refl (tree : FileTree) : Grows tree tree :=
  ⟨rfl, fun _ => .inl rfl⟩

/-- A tree that grows twice has grown. -/
theorem trans {before between after : FileTree} (first : Grows before between)
    (second : Grows between after) : Grows before after :=
  ⟨second.here.trans first.here, fun location =>
    (first.spares location).trans (second.spares location)⟩

end Grows

/-- Making a directory changes nothing but the place it is made at, where nothing was. -/
theorem grows_of_makeDirectory {tree after : FileTree} {path : Path}
    (made : tree.makeDirectory path = .ok after) : Grows tree after := by
  -- The directory is made where the path leads, and only if nothing is there yet.
  obtain ⟨target, found, made⟩ := bind_eq_ok_iff.1 made
  cases target with
  | directory location => exact absurd made nofun
  | named location =>
    have below := ne_nil_of_locate found
    cases absent : tree.entry? location with
    | some entry => simp [absent] at made
    | none =>
      simp only [absent, Except.ok.injEq] at made
      subst made
      refine ⟨rfl, fun other => ?_⟩
      rw [Spared, entry_set below]
      by_cases same : other = location
      · subst same
        exact .inr ⟨absent, if_pos rfl⟩
      · exact .inl (if_neg same)

/-- Making directories one above the other only makes directories, whatever comes of it. -/
theorem grows_makeAll (tree : FileTree) (paths : List Path) :
    Grows tree (tree.makeAll paths).2 := by
  -- Either the first one can be made, or those above it are made before it is tried again.
  induction paths with
  | nil => exact .refl tree
  | cons path above ih =>
    rw [makeAll]
    split
    · exact .refl tree
    · cases first : tree.makeDirectory path with
      | ok after => exact grows_of_makeDirectory first
      | error cause =>
        cases cause with
        | notFound =>
          cases outcome : tree.makeAll above with
          | mk result between =>
            rw [outcome] at ih
            cases result with
            | error cause => simpa [outcome] using ih
            | ok done =>
              -- What was made above stays, whether the second try succeeds or not.
              cases second : between.makeDirectory path with
              | ok after => simpa [outcome, second] using ih.trans (grows_of_makeDirectory second)
              | error cause => simpa [outcome, second] using ih
        | _ => exact .refl tree

/-- Making a directory and all those above it only makes directories. -/
theorem grows_makeDirectories (tree : FileTree) (path : Path) :
    Grows tree (tree.makeDirectories path).2 :=
  grows_makeAll tree _

/-! ### Written files -/

/--
A file written at a place, for which directories may have been made before.

All other places hold what they held, or a directory where nothing was.
-/
structure Wrote (path : Path) (text : String) (location : Location) (before after : FileTree) :
    Prop where
  found : after.locate path = .ok (.named location)
  file : path.endsInSlash = false
  /-- No directory was replaced. -/
  free : before.entry? location ≠ some .directory
  holds : after.entry? location = some (.file text.toUTF8)
  here : after.here = before.here
  others : ∀ other, other ≠ location → Spared before after other

/-- Writing a file changes nothing but its place. -/
theorem wrote_of_write {before after : FileTree} {path : Path} {text : String}
    (written : before.write path text.toUTF8 = .ok after) :
    ∃ location, Wrote path text location before after := by
  obtain ⟨target, found, written⟩ := bind_eq_ok_iff.1 written
  cases target with
  | directory location => exact absurd written nofun
  | named location =>
    have below := ne_nil_of_locate found
    by_cases slash : path.endsInSlash = true
    · simp [slash] at written
    · have file : path.endsInSlash = false := by simpa using slash
      by_cases taken : before.entry? location = some .directory
      · simp [file, taken] at written
      · -- What remains is to put the text there, over a file or where there was nothing.
        have set : after = before.set location (.file text.toUTF8) := by
          cases entry : before.entry? location with
          | none => simpa [file, entry, eq_comm] using written
          | some kind =>
            cases kind with
            | directory => exact absurd entry taken
            | file contents => simpa [file, entry, eq_comm] using written
        subst set
        -- No directory is lost, so the path leads to its place as before.
        have keeps : Keeps before (before.set location (.file text.toUTF8)) := by
          refine ⟨rfl, fun other isDirectory => ?_⟩
          have apart : other ≠ location := by
            rintro rfl
            exact taken isDirectory
          exact (entry_set below ..).trans ((if_neg apart).trans isDirectory)
        exact ⟨location, keeps.locate found, file, taken,
          (entry_set below ..).trans (if_pos rfl), rfl,
          fun other apart => .inl ((entry_set below ..).trans (if_neg apart))⟩

namespace Wrote

variable {path : Path} {text : String} {location : Location} {before after : FileTree}

/-- Directories may be made before a file is written. -/
theorem of_grows {between : FileTree} (grows : Grows before between)
    (wrote : Wrote path text location between after) : Wrote path text location before after where
  -- A file that may be written still may, since nothing was removed.
  found := wrote.found
  file := wrote.file
  free := fun taken => wrote.free ((grows.spares location).kept taken)
  holds := wrote.holds
  here := wrote.here.trans grows.here
  others other apart := (grows.spares other).trans (wrote.others other apart)

/-- What was written is what is read. -/
theorem read (wrote : Wrote path text location before after) : after.read path = .ok text :=
  read_of_entry? wrote.found wrote.file wrote.holds

/-- Writing a file keeps the directories. -/
theorem keeps (wrote : Wrote path text location before after) : Keeps before after where
  -- No directory was at the place of the file.
  here := wrote.here
  directories other isDirectory :=
    have apart : other ≠ location := fun same => wrote.free (same ▸ isDirectory)
    (wrote.others other apart).kept isDirectory

/-- A file is still read after another one was written in a different place. -/
theorem read_after {path' : Path} {text' : String} {location' : Location} {later : FileTree}
    (wrote : Wrote path text location before after)
    (wrote' : Wrote path' text' location' after later) (apart : location ≠ location') :
    later.read path = .ok text :=
  -- The second write keeps the first file found, and changes no other location.
  read_of_entry? (wrote'.keeps.locate wrote.found) wrote.file
    ((wrote'.others location apart).kept wrote.holds)

end Wrote

end Navigation.FileTree
