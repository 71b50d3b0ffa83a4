import Navigation.Layout
import Navigation.Proofs.Text.Delimited
import Navigation.Proofs.Token.Free

/-! Laws of laid out code: how its lines are split between steps, and how they are read back. -/

namespace Navigation.Layout

open Token (find?)

/-- The text a step writes behind the indent. -/
def Step.text : Step → String
  | .line text => text
  | .blank => ""
  | .opens text => text
  | .closes text => text

/-- The number of blocks around the line behind some code. -/
def depthAfter : Nat → List Step → Nat
  | depth, [] => depth
  | depth, .line _ :: rest => depthAfter depth rest
  | depth, .blank :: rest => depthAfter depth rest
  | depth, .opens _ :: rest => depthAfter (depth + 1) rest
  | depth, .closes _ :: rest => depthAfter (depth - 1) rest

/-- The depth behind two pieces of code is that behind the second, which starts behind the first. -/
theorem depthAfter_append (depth : Nat) (first second : List Step) :
    depthAfter depth (first ++ second) = depthAfter (depthAfter depth first) second := by
  -- Only a line that opens or closes a block changes the depth of those behind it.
  fun_induction depthAfter depth first with
  | case1 depth => rfl
  | case2 depth text rest ih | case3 depth rest ih | case4 depth text rest ih
  | case5 depth text rest ih => exact ih

/-- Code laid out behind other code goes on at the depth that was reached. -/
theorem lines_append (depth : Nat) (first second : List Step) :
    lines depth (first ++ second) = lines depth first ++ lines (depthAfter depth first) second := by
  -- Each step hands its own depth on to the steps behind it.
  fun_induction lines depth first with
  | case1 depth => rfl
  | case2 depth text rest ih | case3 depth rest ih | case4 depth text rest ih
  | case5 depth text rest ih => simp [lines, depthAfter, ih]

/-- Code that closes a block at its end has the closing text as its end. -/
theorem render_append_closes (steps : List Step) (text : String) :
    ∃ front, render (steps ++ [.closes text]) = front ++ text := by
  rw [render, lines_append, lines, lines]
  -- The closing line is the only one, or it follows the others behind a line feed.
  by_cases alone : lines 0 steps = []
  · rw [alone, List.nil_append, String.intercalate_singleton]
    exact ⟨_, rfl⟩
  · rw [String.intercalate_append_of_ne_nil alone (by simp), String.intercalate_singleton,
      ← String.append_assoc]
    exact ⟨_, rfl⟩

/-- Items with a comma behind each but the last. -/
def commas : List String → List String
  | [] => []
  | [last] => [last]
  | item :: rest => (item ++ ",") :: commas rest

/-- Listed items are lines of their own, with commas between them. -/
theorem listed_eq (items : List String) : listed items = (commas items).map .line := by
  -- In both, the last item is the one without a comma.
  fun_induction commas items with
  | case1 | case2 => rfl
  | case3 item rest more ih => rw [listed, ih, List.map_cons]; exact more

/-- A text with commas is one of the items, with or without a comma behind it. -/
theorem mem_commas {items : List String} {text : String} (member : text ∈ commas items) :
    ∃ item ∈ items, text = item ∨ text = item ++ "," := by
  -- The last item is the one without a comma.
  fun_induction commas items with
  | case1 => simp at member
  | case2 last => exact ⟨last, by simp, .inl (by simpa using member)⟩
  | case3 item rest more ih =>
    rcases List.mem_cons.1 member with here | behind
    · exact ⟨item, by simp, .inr here⟩
    · obtain ⟨other, listed, same⟩ := ih behind
      exact ⟨other, List.mem_cons_of_mem item listed, same⟩

/-- As many texts are written as there are items. -/
@[simp] theorem length_commas (items : List String) : (commas items).length = items.length := by
  -- Each item gets a comma or is left alone.
  fun_induction commas items <;> simp_all

/-- Items can be told from their texts, although a comma may be part of an item. -/
theorem commas_injective : Function.Injective commas := by
  intro items others same
  have even : items.length = others.length := by rw [← length_commas, same, length_commas]
  -- Of two lists of one length, the same items have a comma behind them.
  fun_induction commas items generalizing others with
  | case1 => exact (List.length_eq_zero_iff.1 even.symm).symm
  | case2 last =>
    obtain ⟨other, rfl⟩ := List.length_eq_one_iff.1 even.symm
    exact same
  | case3 item rest more ih =>
    match others, even with
    | [other], even =>
      exact absurd (List.length_eq_zero_iff.1 (Nat.succ_inj.1 even)) more
    | other :: next :: others, even =>
      obtain ⟨here, behind⟩ := List.cons_eq_cons.1 same
      rw [ih behind (Nat.succ_inj.1 even), (String.append_left_inj ",").1 here]

/-- A listed item is a line of its own, with or without a comma behind it. -/
theorem mem_listed {items : List String} {step : Step} (member : step ∈ listed items) :
    ∃ item ∈ items, step = .line item ∨ step = .line (item ++ ",") := by
  -- Each step is the line of an item, with or without a comma.
  rw [listed_eq] at member
  obtain ⟨text, listed, rfl⟩ := List.mem_map.1 member
  obtain ⟨item, among, same⟩ := mem_commas listed
  exact ⟨item, among, same.imp (congrArg _) (congrArg _)⟩

/-- Each listed item is on a line of its own, with or without a comma behind it. -/
theorem exists_mem_listed {items : List String} {item : String} (member : item ∈ items) :
    ∃ ending, .line (item ++ ending) ∈ listed items := by
  -- The last item is the one without a comma.
  fun_induction listed items with
  | case1 => simp at member
  | case2 last => exact ⟨"", by simpa using member⟩
  | case3 first rest more ih =>
    rcases List.mem_cons.1 member with rfl | member
    · exact ⟨",", List.mem_cons_self⟩
    · obtain ⟨ending, listed⟩ := ih member
      exact ⟨ending, List.mem_cons_of_mem _ listed⟩

/-- Each line is somewhere in the text that the lines are put together to. -/
theorem exists_intercalate_eq {lines : List String} {line : String} (member : line ∈ lines) :
    ∃ front back, "\n".intercalate lines = front ++ line ++ back := by
  -- What is in front of the line ends in a line feed, unless it is the first one.
  induction lines with
  | nil => simp at member
  | cons first rest ih =>
    cases rest with
    | nil =>
      obtain rfl := List.mem_singleton.1 member
      exact ⟨"", "", by simp⟩
    | cons second rest =>
      rw [String.intercalate_cons_cons]
      rcases List.mem_cons.1 member with rfl | member
      · exact ⟨"", "\n" ++ "\n".intercalate (second :: rest), by simp [String.append_assoc]⟩
      · obtain ⟨front, back, whole⟩ := ih member
        exact ⟨first ++ "\n" ++ front, back, by rw [whole]; simp only [String.append_assoc]⟩

/-- The text of each step is on a line, behind an indent. -/
theorem exists_mem_lines {steps : List Step} {step : Step} (member : step ∈ steps) (depth : Nat) :
    ∃ inner, indent inner ++ step.text ∈ lines depth steps := by
  fun_induction lines depth steps with
  | case1 => simp at member
  | case2 depth text rest ih | case4 depth text rest ih | case5 depth text rest ih =>
    rcases List.mem_cons.1 member with rfl | member
    · exact ⟨_, List.mem_cons_self⟩
    · obtain ⟨inner, listed⟩ := ih member
      exact ⟨inner, List.mem_cons_of_mem _ listed⟩
  | case3 depth rest ih =>
    rcases List.mem_cons.1 member with rfl | member
    · -- A blank line is one without an indent.
      exact ⟨0, List.mem_cons_self⟩
    · obtain ⟨inner, listed⟩ := ih member
      exact ⟨inner, List.mem_cons_of_mem _ listed⟩

/-- The text of each step is somewhere in the code. -/
theorem exists_render_eq {steps : List Step} {step : Step} (member : step ∈ steps) :
    ∃ front back, render steps = front ++ step.text ++ back := by
  -- The step's line is one of those that are joined, with its indent in front.
  obtain ⟨inner, listed⟩ := exists_mem_lines member 0
  obtain ⟨front, back, whole⟩ := exists_intercalate_eq listed
  exact ⟨front ++ indent inner, back, by rw [render, whole]; simp only [String.append_assoc]⟩

/-- The characters of code, with a line feed behind every line. -/
def written (depth : Nat) (steps : List Step) : List Char :=
  (lines depth steps).flatMap fun line => line.toList ++ ['\n']

/-- What is written behind other code is written at the depth that was reached. -/
theorem written_append (depth : Nat) (first second : List Step) :
    written depth (first ++ second) =
      written depth first ++ written (depthAfter depth first) second := by
  -- The lines of the second part start at the depth that the first one leads to.
  rw [written, lines_append, List.flatMap_append, written, written]

/-- The text of code lacks nothing but the line feed at its end. -/
theorem written_eq_render {steps : List Step} (some : lines 0 steps ≠ []) :
    written 0 steps = (render steps).toList ++ ['\n'] := by
  -- The line feeds between the lines are those behind all lines but the last.
  rw [written, render]
  generalize lines 0 steps = all at some
  induction all with
  | nil => exact absurd rfl some
  | cons line rest ih =>
    cases rest with
    | nil => simp
    | cons next rest =>
      have feed : ("\n" : String).toList = ['\n'] := rfl
      rw [List.flatMap_cons, ih (by simp), String.intercalate_cons_cons, String.toList_append,
        String.toList_append, feed, List.append_assoc, List.append_assoc, List.append_assoc]

/-- A line of text at some depth, with its line feed. -/
def row (depth : Nat) (text : String) : List Char :=
  (indent depth).toList ++ (text.toList ++ ['\n'])

@[simp] theorem written_nil (depth : Nat) : written depth [] = [] :=
  rfl

@[simp] theorem written_line (depth : Nat) (text : String) (rest : List Step) :
    written depth (.line text :: rest) = row depth text ++ written depth rest := by
  -- A line changes nothing for those behind it.
  simp [written, lines, row]

@[simp] theorem written_blank (depth : Nat) (rest : List Step) :
    written depth (.blank :: rest) = '\n' :: written depth rest := by
  -- A blank line has no indent, and changes nothing for those behind it.
  simp [written, lines]

@[simp] theorem written_opens (depth : Nat) (text : String) (rest : List Step) :
    written depth (.opens text :: rest) = row depth text ++ written (depth + 1) rest := by
  -- What is behind stands one step deeper.
  simp [written, lines, row]

@[simp] theorem written_closes (depth : Nat) (text : String) (rest : List Step) :
    written depth (.closes text :: rest) = row (depth - 1) text ++ written (depth - 1) rest := by
  -- The closing line itself stands one step further out already.
  simp [written, lines, row]

/-- Lines of text are written one after the other. -/
theorem written_lines (depth : Nat) (texts : List String) :
    written depth (texts.map .line) = texts.flatMap (row depth) := by
  -- Lines stay at the depth they start at.
  induction texts with
  | nil => rfl
  | cons text rest ih => rw [List.map_cons, written_line, ih, List.flatMap_cons]

/-- Lines of text leave the depth as it was. -/
@[simp] theorem depthAfter_lines (depth : Nat) (texts : List String) :
    depthAfter depth (texts.map .line) = depth := by
  -- No line opens or closes a block.
  induction texts with
  | nil => rfl
  | cons text rest ih => exact ih

/-- Listed items are at one depth. -/
@[simp] theorem depthAfter_listed (depth : Nat) (items : List String) :
    depthAfter depth (listed items) = depth := by
  -- Lists are made up of lines.
  rw [listed_eq, depthAfter_lines]

/-- Pieces of code that return to their depth are written one after the other. -/
theorem written_flatMap {α : Type} {depth : Nat} {piece : α → List Step}
    (returns : ∀ a, depthAfter depth (piece a) = depth) (values : List α) (rest : List Step) :
    written depth (values.flatMap piece ++ rest) =
      values.flatMap (fun a => written depth (piece a)) ++ written depth rest := by
  -- Each piece starts at the depth that the one before it has returned to.
  induction values with
  | nil => rfl
  | cons value values ih =>
    rw [List.flatMap_cons, List.append_assoc, written_append, returns, ih, List.flatMap_cons,
      List.append_assoc]

/-- A text without line feeds can be read back from its line. -/
theorem delimited_row (depth : Nat) : Delimited ('\n' ∉ ·.toList) (row depth) := by
  -- The text stands between an indent of known length and a line feed.
  have shape : row depth =
      fun text => (indent depth).toList ++ ((text.toList ++ ['\n']) ++ []) := by
    funext text
    rw [List.append_nil, row]
  rw [shape]
  exact ((Delimited.upTo '\n').of_injective fun _ _ => String.toList_injective).framed _ _

/-- Listed items are read back up to the first line that is indented less than they are. -/
theorem eq_of_written_listed {depth : Nat} {items others : List String} {rest rest' : List Char}
    (fits : ∀ item ∈ items, '\n' ∉ item.toList) (fits' : ∀ item ∈ others, '\n' ∉ item.toList)
    (stop : ¬ (indent depth).toList <+: rest) (stop' : ¬ (indent depth).toList <+: rest')
    (same : written depth (listed items) ++ rest = written depth (listed others) ++ rest') :
    items = others ∧ rest = rest' := by
  -- A comma that is put behind an item is no line feed either.
  have plain {items : List String} (fits : ∀ item ∈ items, '\n' ∉ item.toList) :
      ∀ text ∈ commas items, '\n' ∉ text.toList := by
    intro text member
    obtain ⟨item, among, rfl | rfl⟩ := mem_commas member
    · exact fits text among
    · simpa [String.toList_append] using fits item among
  rw [listed_eq, listed_eq, written_lines, written_lines] at same
  obtain ⟨texts, ends⟩ := (delimited_row depth).list (fun text => List.prefix_append _ _)
    (plain fits) (plain fits') stop stop' same
  exact ⟨commas_injective texts, ends⟩

/-- An indent is made of spaces. -/
theorem bracket_not_mem_indent (depth : Nat) : '[' ∉ (indent depth).toList := by
  -- An indent is made up of blanks.
  rw [indent, String.toList_ofList]
  intro member
  exact absurd (List.eq_of_mem_replicate member) (by decide)

/-- An indented text has a token only if the text has one. -/
theorem find?_indent_append {text : String} (free : find? text.toList = none) (depth : Nat) :
    find? (indent depth ++ text).toList = none := by
  -- An indent has no bracket that could open a token.
  rw [String.toList_append]
  exact (Token.find?_append_of_not_mem (bracket_not_mem_indent depth) _).2 free

/-- A line of code has a token only if the text of some step has one. -/
theorem find?_of_mem_lines {depth : Nat} {steps : List Step}
    (free : ∀ step ∈ steps, find? step.text.toList = none) :
    ∀ line ∈ lines depth steps, find? line.toList = none := by
  -- Three kinds of steps write their text behind an indent, and a blank line has no text.
  fun_induction lines depth steps with
  | case1 depth => simp
  | case2 depth text rest ih | case4 depth text rest ih | case5 depth text rest ih =>
    obtain ⟨here, behind⟩ := List.forall_mem_cons.1 free
    exact List.forall_mem_cons.2 ⟨find?_indent_append here _, ih behind⟩
  | case3 depth rest ih =>
    obtain ⟨here, behind⟩ := List.forall_mem_cons.1 free
    exact List.forall_mem_cons.2 ⟨here, ih behind⟩

/-- Lines put under each other have a token only if one of them has. -/
theorem find?_intercalate {lines : List String}
    (free : ∀ line ∈ lines, find? line.toList = none) :
    find? ("\n".intercalate lines).toList = none := by
  -- A line feed separates each line from the one below it.
  induction lines with
  | nil => rfl
  | cons first rest ih =>
    obtain ⟨here, behind⟩ := List.forall_mem_cons.1 free
    cases rest with
    | nil => simpa using here
    | cons second rest =>
      have feed : ("\n" : String).toList = ['\n'] := rfl
      rw [String.intercalate_cons_cons, String.toList_append, String.toList_append, feed,
        List.append_assoc, List.singleton_append]
      exact (Token.find?_append_separator (by decide) _ _).2 ⟨here, ih behind⟩

/--
Laid out code has a token only if the text of some step has one.

Neither an indent nor the end of a line can make one out of two texts.
-/
theorem find?_render {steps : List Step} (free : ∀ step ∈ steps, find? step.text.toList = none) :
    find? (render steps).toList = none :=
  find?_intercalate (find?_of_mem_lines free)

end Navigation.Layout
