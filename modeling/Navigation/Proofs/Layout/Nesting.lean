import Mathlib.Data.List.DropRight
import Navigation.Proofs.Layout

/-! Nested code: brackets pair up, and a line is written at the depth of the blocks around it. -/

namespace Navigation.Layout

/-- Code in the writing: its characters so far, and the depth that was reached. -/
structure Writer where
  out : List Char := []
  depth : Nat := 0
  deriving DecidableEq

namespace Writer

/-- Writes a line of text at the depth that was reached. -/
def line (text : String) (writer : Writer) : Writer :=
  { writer with out := writer.out ++ row writer.depth text }

/-- Takes one step; the line that opens a block and the one that closes it are outside of it. -/
def take (writer : Writer) : Step → Writer
  | .line text => writer.line text
  | .blank => { writer with out := writer.out ++ ['\n'] }
  | .opens text => { writer.line text with depth := writer.depth + 1 }
  -- The depth stays at zero if no block is open.
  | .closes text => { writer with depth := writer.depth - 1 }.line text

/-- What an empty writer has become once it has taken some steps. -/
def run (steps : List Step) : Writer :=
  steps.foldl take {}

/-- The code that was written, without the line feeds at its end. -/
def finish (writer : Writer) : String :=
  String.ofList (writer.out.rdropWhile (· == '\n'))

/-- A step is written as it is laid out at the depth that was reached. -/
theorem take_eq (writer : Writer) (step : Step) :
    writer.take step =
      ⟨writer.out ++ written writer.depth [step], depthAfter writer.depth [step]⟩ := by
  -- Each kind of step writes its own line, and changes the depth for those behind it.
  cases step <;> simp [take, line, depthAfter]

/-- Steps are written behind what was written before, from the depth that was reached. -/
theorem foldl_take (writer : Writer) (steps : List Step) :
    steps.foldl take writer =
      ⟨writer.out ++ written writer.depth steps, depthAfter writer.depth steps⟩ := by
  induction steps generalizing writer with
  | nil => simp [depthAfter]
  | cons step rest ih =>
    -- The first step is laid out by itself, and the others from the depth it leaves.
    have split : step :: rest = [step] ++ rest := rfl
    rw [List.foldl_cons, ih, take_eq, split, written_append writer.depth [step] rest,
      depthAfter_append writer.depth [step] rest, List.append_assoc]

/-- The writer that takes some steps has written them as they are laid out. -/
theorem run_eq (steps : List Step) : run steps = ⟨written 0 steps, depthAfter 0 steps⟩ :=
  foldl_take {} steps

/-- Taking one step more is taking a step behind the others. -/
theorem run_concat (steps : List Step) (step : Step) :
    run (steps ++ [step]) = (run steps).take step := by
  -- The last step is taken from where the others have led.
  rw [run, List.foldl_concat, run]

/-- The writer ends with the text of the code, where the last line of the code is not empty. -/
theorem finish_run {steps : List Step} {c : Char} (last : (render steps).toList.getLast? = some c)
    (visible : c ≠ '\n') : (run steps).finish = render steps := by
  have some : lines 0 steps ≠ [] := by
    intro empty
    simp [render, empty] at last
  -- One line feed follows the last line, and the text in front of it ends in another character.
  have kept : (render steps).toList.rdropWhile (· == '\n') = (render steps).toList := by
    rw [List.rdropWhile_eq_self_iff]
    intro full
    rw [List.getLast?_eq_some_getLast full, Option.some.injEq] at last
    simpa [last] using visible
  rw [finish, run_eq, written_eq_render some, List.rdropWhile_concat_pos _ _ _ (by simp), kept,
    String.ofList_toList]

end Writer

/-- Whether a line closes what another line opens: its bracket is the counterpart of the other's. -/
def Pairs (opening closing : String) : Prop :=
  opening.toList.getLast? = some '(' ∧ (closing = ")" ∨ closing = "),") ∨
    opening.toList.getLast? = some '\x7b' ∧ closing = "\x7d"

instance (opening closing : String) : Decidable (Pairs opening closing) :=
  inferInstanceAs (Decidable (_ ∧ _ ∨ _ ∧ _))

namespace Step

/-- The blocks that are open behind a step, each known by its first line, the innermost in front. -/
def leaves (blocks : List String) : Step → List String
  | .line _ | .blank => blocks
  | .opens text => text :: blocks
  | .closes _ => blocks.tail

/-- The blocks around the line that a step writes. -/
def around (blocks : List String) : Step → List String
  | .line _ | .blank | .opens _ => blocks
  | .closes _ => blocks.tail

/-- Whether a step may be taken inside of some blocks: it may only close the innermost one. -/
def Fits (blocks : List String) : Step → Prop
  | .line _ | .blank | .opens _ => True
  | .closes text => ∃ opening outer, blocks = opening :: outer ∧ Pairs opening text

end Step

/-- The blocks that are open behind some code, which itself is inside of some blocks. -/
def blocksAfter (blocks : List String) (steps : List Step) : List String :=
  steps.foldl Step.leaves blocks

/-- Code behind other code finds those blocks open that the other one leaves open. -/
theorem blocksAfter_append (blocks : List String) (first second : List Step) :
    blocksAfter blocks (first ++ second) = blocksAfter (blocksAfter blocks first) second :=
  List.foldl_append

/-- The depth behind a step is the number of blocks that it leaves open. -/
theorem depthAfter_singleton (blocks : List String) (step : Step) :
    depthAfter blocks.length [step] = (step.leaves blocks).length := by
  -- Without an open block, neither the depth nor the blocks have anything to lose.
  cases step <;> simp [depthAfter, Step.leaves]

/-- The depth behind some code is the number of blocks that are open there. -/
theorem depthAfter_length (blocks : List String) (steps : List Step) :
    depthAfter blocks.length steps = (blocksAfter blocks steps).length := by
  induction steps generalizing blocks with
  | nil => rfl
  | cons step rest ih =>
    -- One step keeps the depth equal to the number, and so do all the others.
    have split : step :: rest = [step] ++ rest := rfl
    rw [split, depthAfter_append, depthAfter_singleton, ih]
    rfl

/-- The depth of a writer is the number of blocks that its code leaves open. -/
theorem Writer.depth_run (steps : List Step) :
    (run steps).depth = (blocksAfter [] steps).length := by
  -- The writer counts the blocks that it keeps open.
  rw [run_eq]
  exact depthAfter_length [] steps

/-- Each line is written behind four spaces for each block around it. -/
theorem Writer.out_run_concat (steps : List Step) {step : Step} (visible : step ≠ .blank) :
    (run (steps ++ [step])).out = (run steps).out ++
      (List.replicate (4 * (step.around (blocksAfter [] steps)).length) ' ' ++
        (step.text.toList ++ ['\n'])) := by
  -- The indent is that of the depth, before the block is opened or once it is closed.
  have depth := depth_run steps
  rw [run_concat]
  cases step with
  | blank => exact absurd rfl visible
  | line text | opens text => simp [take, line, row, indent, depth, Step.around, Step.text]
  | closes text => simp [take, line, row, indent, depth, Step.around, Step.text]

/-- Whether all steps may be taken one after the other, the first one inside of some blocks. -/
def Fits : List String → List Step → Prop
  | _, [] => True
  | blocks, step :: rest => step.Fits blocks ∧ Fits (step.leaves blocks) rest

/-- Code behind other code fits into the blocks that the other one leaves open. -/
theorem fits_append {blocks : List String} {first second : List Step} :
    Fits blocks (first ++ second) ↔
      Fits blocks first ∧ Fits (blocksAfter blocks first) second := by
  induction first generalizing blocks with
  | nil => simp [Fits, blocksAfter]
  | cons step rest ih =>
    -- The blocks behind the first step are those that the rest is inside of.
    have behind : blocksAfter blocks (step :: rest) = blocksAfter (step.leaves blocks) rest := rfl
    rw [List.cons_append, Fits, Fits, ih, behind, and_assoc]

/-- Code in which each block is opened, filled with such code again, and closed. -/
inductive Balanced : List Step → Prop
  | nil : Balanced []
  | line (text : String) : Balanced [.line text]
  | blank : Balanced [.blank]
  | append {first second : List Step} (before : Balanced first) (behind : Balanced second) :
      Balanced (first ++ second)
  | block {opening closing : String} {inside : List Step} (pairs : Pairs opening closing)
      (filled : Balanced inside) : Balanced (.opens opening :: (inside ++ [.closes closing]))

namespace Balanced

/-- Lines of text open no block, and close none. -/
theorem lines (texts : List String) : Balanced (texts.map .line) := by
  -- Each line is balanced on its own.
  induction texts with
  | nil => exact nil
  | cons text rest ih => exact (line text).append ih

/-- Listed items are balanced, being lines of text. -/
theorem listed (items : List String) : Balanced (listed items) := by
  -- Lists are made up of lines.
  rw [listed_eq]
  exact lines _

/-- Pieces of balanced code make up balanced code. -/
theorem flatMap {α : Type} {piece : α → List Step} (pieces : ∀ a, Balanced (piece a))
    (values : List α) : Balanced (values.flatMap piece) := by
  -- The pieces stand one behind the other.
  induction values with
  | nil => exact nil
  | cons value rest ih => exact (pieces value).append ih

/-- Balanced code leaves open what was open before it, and fits in wherever it is put. -/
theorem fits {steps : List Step} (balanced : Balanced steps) (blocks : List String) :
    Fits blocks steps ∧ blocksAfter blocks steps = blocks := by
  -- The induction is on how the code is put together, for all blocks around it at once.
  induction balanced generalizing blocks with
  | nil | line _ | blank => exact ⟨by simp [Fits, Step.Fits], rfl⟩
  | append _ _ before behind =>
    obtain ⟨first, returns⟩ := before blocks
    obtain ⟨second, returns'⟩ := behind blocks
    rw [fits_append, blocksAfter_append, returns]
    exact ⟨⟨first, second⟩, returns'⟩
  | @block opening closing inside pairs _ filled =>
    -- Behind what fills the block, the block itself is the innermost one again.
    obtain ⟨within, returns⟩ := filled (opening :: blocks)
    have start : Fits (opening :: blocks) (inside ++ [.closes closing]) := by
      rw [fits_append, returns]
      exact ⟨within, ⟨opening, blocks, rfl, pairs⟩, trivial⟩
    have closed : blocksAfter (opening :: blocks) (inside ++ [.closes closing]) = blocks := by
      rw [blocksAfter_append, returns]
      rfl
    exact ⟨⟨trivial, start⟩, closed⟩

/-- Balanced code returns to the depth that it starts at. -/
theorem depthAfter {steps : List Step} (balanced : Balanced steps) (depth : Nat) :
    Layout.depthAfter depth steps = depth := by
  -- Any blocks will do, as long as there are as many of them.
  have count := depthAfter_length (List.replicate depth "") steps
  rw [(balanced.fits _).2, List.length_replicate] at count
  exact count

end Balanced

/-- Of listed items, each but the last is followed by a comma. -/
theorem listed_eq_dropLast (items : List String) :
    listed items = (items.dropLast.map (· ++ ",") ++ items.getLast?.toList).map .line := by
  rw [listed_eq]
  -- Both go through the items up to the last one.
  fun_induction commas items with
  | case1 | case2 => rfl
  | case3 item rest more ih =>
    rw [List.map_cons, ih, List.dropLast_cons_of_ne_nil more, List.getLast?_cons_of_ne_nil more]
    rfl

/-- Whether code has a single block with some first line, and the block lists some items: each is
on a line of its own, and a comma is added to each but the last. -/
structure ListsOnly (opening : String) (items : List String) (code : List Step) : Prop where
  once : code.count (.opens opening) = 1
  filled : ∃ front closing back, code = front ++ .opens opening ::
    ((items.dropLast.map (· ++ ",") ++ items.getLast?.toList).map .line ++ .closes closing :: back)

end Navigation.Layout
