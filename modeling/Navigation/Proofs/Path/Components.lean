import Navigation.Proofs.Path

/-! The components of a path, which tell where it leads, and which paths are above it. -/

namespace Navigation.Path

/-- What a path with a given first part starts from. -/
def origin (first : List Char) (others : List (List Char)) : List String :=
  -- An empty first part is that of a rooted path, unless there is nothing behind it.
  if first.isEmpty then (if others.isEmpty then [] else ["/"]) else [String.ofList first]

/-- The parts of a path that lead on, without those that lead nowhere. -/
def steps (parts : List (List Char)) : List String :=
  (parts.filter (!isTrivial ·)).map String.ofList

/-- The components of a path that is cut into parts. -/
def componentsOf : List (List Char) → List String
  | first :: others => origin first others ++ steps others
  | [] => []

/-- The components of a text that is a path. -/
def componentsIn (chars : List Char) : List String :=
  componentsOf (cutAt '/' chars)

/-- The components of a path: paths that have the same are one path, in different writings. -/
def components (path : Path) : List String :=
  componentsIn path.chars

/-- Parts one behind the other lead on one behind the other. -/
theorem steps_append (front back : List (List Char)) :
    steps (front ++ back) = steps front ++ steps back := by
  -- Each part leads somewhere or is dropped, whatever stands around it.
  rw [steps, List.filter_append, List.map_append]
  rfl

/-- A part that leads nowhere is no step. -/
theorem steps_of_isTrivial {part : List Char} (trivial : isTrivial part = true) :
    steps [part] = [] := by
  -- Such a part is filtered out.
  simp [steps, trivial]

/-- A part that leads on is one step. -/
theorem steps_of_not_isTrivial {part : List Char} (leads : isTrivial part = false) :
    steps [part] = [String.ofList part] := by
  -- Such a part is not filtered out.
  simp [steps, leads]

/-- It does not matter what is behind the first part of a path, as long as something is. -/
theorem origin_eq {others : List (List Char)} (filled : others ≠ []) (first : List Char) :
    origin first others = origin first [[]] := by
  -- Only whether there are other parts is looked at.
  simp [origin, filled]

/-- What comes behind a slash leads on from what is in front of it. -/
theorem componentsIn_append_slash (front back : List Char) :
    componentsIn (front ++ '/' :: back) =
      componentsIn (front ++ ['/']) ++ steps (cutAt '/' back) := by
  -- Both texts have the same first part, with others behind it.
  obtain ⟨first, more, parts⟩ := List.exists_cons_of_ne_nil (cutAt_ne_nil '/' front)
  rw [componentsIn, componentsIn, cutAt_append_mark, cutAt_append_mark, parts]
  show origin first (more ++ cutAt '/' back) ++ steps (more ++ cutAt '/' back) =
    (origin first (more ++ [[]]) ++ steps (more ++ [[]])) ++ steps (cutAt '/' back)
  have nothing : steps [[]] = [] := rfl
  have start : origin first (more ++ cutAt '/' back) = origin first [[]] :=
    origin_eq (by simp [cutAt_ne_nil]) first
  have start' : origin first (more ++ [[]]) = origin first [[]] := origin_eq (by simp) first
  rw [start, start', steps_append, steps_append, nothing, List.append_nil, List.append_assoc]

/-- A slash at the end of a text adds no component, unless it is all there is. -/
theorem componentsIn_append_closing {front : List Char} (filled : front ≠ []) :
    componentsIn (front ++ ['/']) = componentsIn front := by
  obtain ⟨first, more, parts⟩ := List.exists_cons_of_ne_nil (cutAt_ne_nil '/' front)
  rw [componentsIn, componentsIn, cutAt_append_mark, parts]
  show origin first (more ++ [[]]) ++ steps (more ++ [[]]) = origin first more ++ steps more
  have nothing : steps [[]] = [] := rfl
  rw [steps_append, nothing, List.append_nil]
  cases more with
  | cons next more => rfl
  | nil =>
    -- The text is its only part, which is therefore not empty.
    have single : front = first := by simpa [parts] using (intercalate_cutAt '/' front).symm
    simp [origin, ← single, filled]

/-- A name that leads one level down, as the two names made of dots do not. -/
structure IsStep (name : String) : Prop where
  isName : IsName name
  ne_here : name ≠ "."
  ne_up : name ≠ ".."

/-- A name that does not start with a dot leads one level down. -/
theorem IsName.isStep {name : String} (plain : IsName name)
    (start : name.toList.head? ≠ some '.') : IsStep name := by
  -- Both parts that do not lead down start with a dot.
  refine ⟨plain, ?_, ?_⟩
  · rintro rfl
    exact start rfl
  · rintro rfl
    exact start rfl

/-- A name that leads one level down is a step. -/
theorem IsStep.steps_eq {name : String} (step : IsStep name) :
    steps (cutAt '/' name.toList) = [name] := by
  -- Without a slash it is one part, and that part leads somewhere.
  have other : name.toList ≠ ['.'] := fun same => step.ne_here (String.toList_injective same)
  have leads : isTrivial name.toList = false := by
    simp [isTrivial, step.isName.chars_ne_nil, other]
  rw [cutAt_of_not_mem step.isName.2, steps_of_not_isTrivial leads, String.ofList_toList]

/-- A name behind a path adds one component, whatever the path ends in. -/
theorem components_join_step (base : Path) {name : String} (step : IsStep name) :
    (base.join ⟨name⟩).components = base.components ++ [name] := by
  have joined : (base.join ⟨name⟩).chars = base.chars ++ (gap base.chars ++ name.toList) := by
    rw [join, chars, String.toList_ofList]
    exact joinChars_of_relative step.isName.isRooted_eq_false
  rw [components, components, joined]
  -- The slash is missing behind the path, or the path ends in one, or there is nothing in front.
  by_cases filled : base.chars = []
  · rw [filled]
    show componentsOf (cutAt '/' name.toList) = [name]
    rw [cutAt_of_not_mem step.isName.2]
    simp [componentsOf, origin, steps, step.isName.1]
  · by_cases closed : base.chars.getLast? = some '/'
    · obtain ⟨front, same⟩ := List.getLast?_eq_some_iff.1 closed
      have shut : gap base.chars = [] := by simp [gap, closed]
      rw [shut, same, List.nil_append, List.append_assoc, List.singleton_append,
        componentsIn_append_slash, step.steps_eq]
    · have missing : gap base.chars = ['/'] := by simp [gap, closed, filled]
      rw [missing, List.singleton_append, componentsIn_append_slash,
        componentsIn_append_closing filled, step.steps_eq]

/-- Names behind a path add one component each. -/
theorem components_foldl_join (base : Path) {names : List String}
    (all : ∀ name ∈ names, IsStep name) :
    ((names.map Path.mk).foldl join base).components = base.components ++ names := by
  -- Each name is joined to the path that those before it have made.
  induction names generalizing base with
  | nil => rw [List.map_nil, List.foldl_nil, List.append_nil]
  | cons name rest ih =>
    obtain ⟨step, later⟩ := List.forall_mem_cons.1 all
    rw [List.map_cons, List.foldl_cons, ih (base.join ⟨name⟩) later,
      components_join_step base step, List.append_assoc, List.singleton_append]

/-- The slash behind a name is missing, since no name has one. -/
theorem IsName.gap_eq {name : String} (plain : IsName name) : gap name.toList = ['/'] := by
  -- A name is not empty and does not end in a slash.
  have open_ : name.toList.getLast? ≠ some '/' := fun last =>
    plain.2 (List.mem_of_getLast? last)
  simp [gap, plain.1, open_]

/-- Names with slashes between them do not start with a slash. -/
theorem isRooted_intercalate {names : List String} (all : ∀ name ∈ names, IsName name) :
    isRooted ("/".intercalate names).toList = false := by
  rw [String.toList_intercalate]
  -- The text starts as the first name does, whatever comes behind that.
  cases names with
  | nil => rfl
  | cons name rest =>
    have plain : IsName name := all name List.mem_cons_self
    cases rest with
    | nil => simpa using plain.isRooted_eq_false
    | cons next rest =>
      rw [List.map_cons, List.map_cons, List.intercalate_cons_cons, List.append_assoc,
        isRooted_append plain.chars_ne_nil, plain.isRooted_eq_false]

/-- Names joined one after the other are the names with slashes between them, joined at once. -/
theorem foldl_join_eq (base : Path) {names : List String} (all : ∀ name ∈ names, IsName name)
    {last : String} (plain : IsName last) :
    ((names.map Path.mk).foldl join base).join ⟨last⟩ =
      base.join ⟨"/".intercalate (names ++ [last])⟩ := by
  induction names generalizing base with
  | nil => rfl
  | cons name rest ih =>
    obtain ⟨named, later⟩ := List.forall_mem_cons.1 all
    rw [List.map_cons, List.foldl_cons, ih (base.join ⟨name⟩) later, join_assoc]
    -- What is behind the name is relative, and a slash is missing in between.
    have behind : ∀ other ∈ rest ++ [last], IsName other :=
      List.forall_mem_append.2 ⟨later, List.forall_mem_singleton.2 plain⟩
    obtain ⟨next, more, tail⟩ := List.exists_cons_of_ne_nil
      (List.append_ne_nil_of_right_ne_nil rest (List.cons_ne_nil last []))
    have parts : name :: rest ++ [last] = name :: next :: more := by rw [List.cons_append, tail]
    -- So joining the rest to the name puts one more slash between two names.
    have text : joinChars name.toList ("/".intercalate (rest ++ [last])).toList =
        ("/".intercalate (name :: rest ++ [last])).toList := by
      rw [joinChars_of_relative (isRooted_intercalate behind), named.gap_eq, parts, tail,
        String.toList_intercalate, String.toList_intercalate]
      simp only [List.map_cons, List.intercalate_cons_cons, List.append_assoc]
      rfl
    have joined : join ⟨name⟩ ⟨"/".intercalate (rest ++ [last])⟩ =
        ⟨"/".intercalate (name :: rest ++ [last])⟩ := by
      simp only [join, chars, text, String.ofList_toList]
    rw [joined]

/-! ### Directories above a path -/

/-- Whether a path is above another: the other has its components, and more behind them. -/
def IsAbove (path other : Path) : Prop :=
  ∃ behind, behind ≠ [] ∧ other.components = path.components ++ behind

/-- What is above a path has fewer components. -/
theorem IsAbove.length_lt {path other : Path} (isAbove : path.IsAbove other) :
    path.components.length < other.components.length := by
  -- At least one more component is behind those of the path.
  obtain ⟨behind, longer, same⟩ := isAbove
  have more : 0 < behind.length := List.length_pos_iff.2 longer
  rw [same, List.length_append]
  omega

/-- Whether paths are different, with neither of them above the other. -/
structure Apart (path other : Path) : Prop where
  ne : path.components ≠ other.components
  not_isAbove : ¬ path.IsAbove other
  not_isAbove' : ¬ other.IsAbove path

/-- Which of two paths comes first does not matter to whether they are apart. -/
theorem Apart.symm {path other : Path} (apart : path.Apart other) : other.Apart path :=
  ⟨apart.ne.symm, apart.not_isAbove', apart.not_isAbove⟩

/-- Parts that lead nowhere can be left out at the end of a path. -/
theorem steps_reverse_dropWhile (others : List (List Char)) :
    steps (others.dropWhile isTrivial).reverse = steps others.reverse := by
  -- Read backwards, the path starts with these parts.
  induction others with
  | nil => rfl
  | cons part rest ih =>
    by_cases trivial : isTrivial part = true
    · rw [List.dropWhile_cons_of_pos trivial, ih, List.reverse_cons, steps_append,
        steps_of_isTrivial trivial, List.append_nil]
    · rw [List.dropWhile_cons_of_neg trivial]

/-- A path that is put together from parts has their components. -/
theorem components_assemble {first : List Char} {others : List (List Char)} (whole : '/' ∉ first)
    (parts : ∀ part ∈ others, '/' ∉ part) :
    (assemble first others).components = origin first [[]] ++ steps others.reverse := by
  unfold assemble
  split
  · -- Without any parts it is the root directory.
    rfl
  · next apart =>
    -- Otherwise it is cut into the same parts again.
    have cut : cutAt '/' (['/'].intercalate (first :: others.reverse)) =
        first :: others.reverse := by
      refine cutAt_intercalate (List.cons_ne_nil _ _) (List.forall_mem_cons.2 ⟨whole, ?_⟩)
      exact fun part listed => parts part (List.mem_reverse.1 listed)
    show componentsIn (String.ofList _).toList = _
    rw [String.toList_ofList, componentsIn, cut]
    show origin first others.reverse ++ steps others.reverse = _
    by_cases filled : others = []
    · -- The first part is then not empty, and stands for itself.
      have named : first ≠ [] := fun empty => apart empty filled
      simp [origin, filled, named]
    · rw [origin_eq (by simpa using filled)]

/-- What is above the parts of a path has their components, but for at least the last one. -/
theorem components_of_mem_above {first : List Char} {others : List (List Char)}
    (whole : '/' ∉ first) (parts : ∀ part ∈ others, '/' ∉ part) {directory : Path}
    (listed : directory ∈ above first others) :
    ∃ behind, behind ≠ [] ∧
      origin first [[]] ++ steps others.reverse = directory.components ++ behind := by
  -- The parts are taken off from the end, and each that leads on leaves a directory.
  induction others with
  | nil =>
    rw [above] at listed
    split at listed
    · exact absurd listed List.not_mem_nil
    · next named =>
      -- The last directory above a relative path is the one it is seen from.
      rw [List.mem_singleton.1 listed]
      exact ⟨[String.ofList first], List.cons_ne_nil _ _, by simp [origin, named]; rfl⟩
  | cons part rest ih =>
    obtain ⟨-, later⟩ := List.forall_mem_cons.1 parts
    rw [above] at listed
    rw [List.reverse_cons, steps_append]
    split at listed
    · next trivial =>
      rw [steps_of_isTrivial trivial, List.append_nil]
      exact ih later listed
    · next leads =>
      rw [steps_of_not_isTrivial (by simpa using leads), ← List.append_assoc]
      rcases List.mem_cons.1 listed with rfl | listed
      · -- The nearest directory lacks this part, and those that led nowhere in front of it.
        refine ⟨[String.ofList part], List.cons_ne_nil _ _, ?_⟩
        rw [components_assemble whole, steps_reverse_dropWhile]
        exact fun other kept => later other ((List.dropWhile_sublist isTrivial).mem kept)
      · obtain ⟨behind, -, same⟩ := ih later listed
        exact ⟨behind ++ [String.ofList part], by simp, by rw [same, List.append_assoc]⟩

/-- The directories that are listed as above a path are above it. -/
theorem isAbove_of_mem_parents {path directory : Path} (listed : directory ∈ path.parents) :
    directory.IsAbove path := by
  obtain ⟨first, others, cut⟩ := List.exists_cons_of_ne_nil (cutAt_ne_nil '/' path.chars)
  have absent : ∀ part ∈ cutAt '/' path.chars, '/' ∉ part := fun part => not_mem_of_mem_cutAt
  rw [cut, List.forall_mem_cons] at absent
  rw [parents, cut] at listed
  obtain ⟨behind, longer, same⟩ := components_of_mem_above absent.1
    (fun part kept => absent.2 part (List.mem_reverse.1 kept)) listed
  refine ⟨behind, longer, ?_⟩
  rw [← same, List.reverse_reverse, components, componentsIn, cut]
  show origin first others ++ steps others = origin first [[]] ++ steps others
  by_cases filled : others = []
  · -- Nothing is above an empty path, so its only part has a name.
    subst filled
    have named : first ≠ [] := by
      rintro rfl
      exact absurd listed List.not_mem_nil
    simp [origin, named]
  · rw [origin_eq filled]

/-- None of the directories above a path is a path that is apart from it, in any writing. -/
theorem Apart.components_ne_of_mem_parents {path other directory : Path}
    (apart : path.Apart other) (listed : directory ∈ path.parents) :
    directory.components ≠ other.components := by
  intro same
  have isAbove : directory.IsAbove path := isAbove_of_mem_parents listed
  -- What is above the path is known by its components.
  rw [IsAbove, same] at isAbove
  exact apart.not_isAbove' isAbove

end Navigation.Path
