import Navigation.Proofs.ErrorTree.Errors
import Navigation.Proofs.ErrorTree.Paths

/-! The printed report of a tree: one record for each fault, labelled by the path to it. -/

namespace Navigation

namespace LocatedError

/-- The routes of a path with dots between them, without the empty ones at its start. -/
def label (located : LocatedError) : String :=
  ".".intercalate (located.path.dropWhile (· == ""))

/-- The record of a fault: its message, behind its label where it has one. -/
def line (located : LocatedError) : String :=
  (if located.label = "" then "" else located.label ++ ": ") ++ located.error.message ++ "\n"

/-- The record that is printed for a fault when the label is made up on the way down to it. -/
def recordBelow (label : String) (located : LocatedError) : String :=
  ErrorNode.record (located.path.foldl ErrorNode.labelBelow label) located.error

/-- What is at the top is printed with the label there. -/
theorem map_recordBelow_atTop (label : String) (messages : List SetupError) :
    (atTop messages).map (recordBelow label) = messages.map (ErrorNode.record label) := by
  -- From there, no route is left to be added to the label.
  rw [atTop, List.map_map]
  rfl

/-- What is below a route is printed with the label below that route. -/
theorem map_recordBelow_allUnder (label route : String) (located : List LocatedError) :
    (allUnder route located).map (recordBelow label) =
      located.map (recordBelow (ErrorNode.labelBelow label route)) := by
  -- The label is made up from the top, so that route is added first.
  rw [allUnder, List.map_map]
  rfl

end LocatedError

open LocatedError (allUnder atTop errorsAt line recordBelow)

namespace ErrorNode

/-- A label that is not empty gets every further route, each behind a dot. -/
theorem foldl_labelBelow_of_ne {start : String} (some : start ≠ "") (path : List String) :
    path.foldl labelBelow start = ".".intercalate (start :: path) := by
  -- The label stays non-empty, so the case of an empty one does not come up again.
  induction path generalizing start with
  | nil => rfl
  | cons route path ih =>
    have longer : start ++ "." ++ route ≠ "" := by
      intro empty
      have chars := congrArg String.toList empty
      simp [String.toList_append] at chars
    rw [List.foldl_cons, labelBelow, if_neg some, ih longer]
    -- The dot in front of the route is one of those between the routes.
    cases path <;> simp [String.intercalate_cons_cons, String.append_assoc]

/-- The label that is made up on the way down a path is that of the path. -/
theorem foldl_labelBelow (path : List String) :
    path.foldl labelBelow "" = ".".intercalate (path.dropWhile (· == "")) := by
  -- Empty routes leave no trace until the first one that is not empty.
  induction path with
  | nil => rfl
  | cons route path ih =>
    rw [List.foldl_cons, labelBelow, if_pos rfl]
    by_cases empty : route = ""
    · rw [empty, ih]
      rfl
    · rw [foldl_labelBelow_of_ne empty, List.dropWhile_cons_of_neg (by simpa using empty)]

/-- From the top, the record made up on the way down is that of the fault. -/
theorem recordBelow_empty : recordBelow "" = line := by
  -- The label of a path is empty in either form, or stands in front of the message.
  funext located
  rw [recordBelow, foldl_labelBelow, record, line, LocatedError.label]
  split <;> simp

end ErrorNode

namespace ErrorBranches

/-- What is printed below a point is one record for each fault that is listed there. -/
theorem render_eq_join (label : String) (branches : ErrorBranches) :
    branches.render label = String.join (branches.located.map (recordBelow label)) := by
  -- Printing and listing go through the branches in the same order.
  induction branches generalizing label with
  | nil => rfl
  | cons route messages below rest inner others =>
    rw [render, inner, others, located, ErrorNode.records, List.map_append,
      LocatedError.map_recordBelow_allUnder, List.map_append, LocatedError.map_recordBelow_atTop,
      String.join_append, String.join_append]

end ErrorBranches

namespace ErrorNode

/-- What is printed of a node is one record for each fault that is listed. -/
theorem render_eq_join (node : ErrorNode) : node.render = String.join (node.located.map line) := by
  -- The messages at the top are printed first, with the empty label.
  rw [render, records, ErrorBranches.render_eq_join, located, List.map_append, ← recordBelow_empty,
    LocatedError.map_recordBelow_atTop, String.join_append]

/-- As many faults are listed as are counted. -/
theorem length_located (node : ErrorNode) : node.located.length = node.count := by
  -- A fault is listed with its path exactly if it is listed without.
  rw [count_eq_length_errors, ← map_error_located, List.length_map]

end ErrorNode

namespace ErrorTree

/--
The printed report has one record for each fault that is listed, in the same order.

The records are as many as the faults that are counted, and those labelled by a path are for the
messages that this path leads to, all of them and in their order.
-/
theorem render_eq_lines (tree : ErrorTree) :
    tree.render = String.join (tree.located.map line) ∧
      tree.located.map (·.error) = tree.errors ∧ tree.located.length = tree.count ∧
        ∀ path, errorsAt path tree.located = (tree.messagesAt? path).getD [] :=
  ⟨tree.render_eq_join, tree.map_error_located, tree.length_located,
    ErrorNode.errorsAt_located tree.ordered⟩

/-- A tree with an empty route above and below others, and a route without faults. -/
theorem render_eq_lines_of_empty_routes :
    let tree : ErrorTree := ⟨⟨[.missingRoot],
      .cons "" [.emptyIdentifier "1"] (.cons "a" [] (.cons "" [.emptyIdentifier "2"] .nil
        (.cons "b" [.emptyIdentifier "3", .missingRoot] .nil .nil)) .nil) (.cons "z" [] .nil .nil)⟩,
      by decide⟩
    tree.located.length = 5 ∧
      errorsAt ["", "a", "b"] tree.located = [.emptyIdentifier "3", .missingRoot] ∧
      tree.render = String.join (tree.located.map line) ∧
      tree.located.map LocatedError.label = ["", "", "a.", "a.b", "a.b"] := by
  -- Two of the labels are empty, and one starts behind an empty route.
  intro tree
  obtain ⟨printed, -, counted, attributed⟩ := render_eq_lines tree
  exact ⟨counted, attributed ["", "a", "b"], printed, by decide⟩

end ErrorTree

end Navigation
