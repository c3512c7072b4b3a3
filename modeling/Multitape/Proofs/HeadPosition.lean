/-
Module: Multitape.Proofs.HeadPosition
Purpose: Where a head stands, whatever was done to its tape, and what a move does to its position. A head
  stands on a stored cell unless none is stored. A move to the left always counts. A move to the right counts
  from a stored cell; on a tape without cells it stores the first one and is lost.
Main exports: Tape.HeadInside, HeadInside.perform, headInside_of_reachable, moveRight_position,
  moves_count_on_stored_cells
-/
import Multitape.Proofs.MachineInvariant
import Multitape.Tape.History

namespace Multitape.Tape

variable {tape : Tape}

/-! ### The head is inside -/

/-- The head stands on a stored cell, unless none is stored. -/
def HeadInside (tape : Tape) : Prop :=
  tape.head < tape.cells.length ∨ tape.cells = [] ∧ tape.head = 0

theorem headInside_iff : tape.HeadInside ↔ (tape.ahead = [] → tape.behind = []) := head_inside_iff

theorem headInside_of_stored (stored : tape.ahead ≠ []) : tape.HeadInside :=
  headInside_iff.2 fun none => absurd none stored

/-- A tape whose head is inside has no cells if it has none from the head on. -/
theorem HeadInside.cells_eq_nil_iff (inside : tape.HeadInside) : tape.cells = [] ↔ tape.ahead = [] := by
  rw [cells, List.append_eq_nil_iff, List.reverse_eq_nil_iff]
  exact and_iff_right_of_imp (headInside_iff.1 inside)

theorem moveRight_ahead_ne_nil : tape.moveRight.ahead ≠ [] := by
  unfold moveRight
  split <;> exact settle_ahead_ne_nil _

theorem headInside_withBlank (alphabet : Alphabet) (blank : Char) :
    (withBlank alphabet blank).HeadInside :=
  headInside_iff.2 fun _ => rfl

theorem HeadInside.shift (inside : tape.HeadInside) (direction : Direction) :
    (tape.shift direction).HeadInside := by
  cases direction with
  | left => exact headInside_of_stored (by simp [Tape.shift])
  | right => exact headInside_of_stored moveRight_ahead_ne_nil
  | stay => exact inside

/-- Whatever is done to a tape, its head stays inside. -/
theorem HeadInside.perform (inside : tape.HeadInside) (operation : Operation) :
    (tape.perform operation).HeadInside := by
  cases operation with
  | read => exact headInside_of_stored tape.settle_ahead_ne_nil
  | write symbol => exact headInside_of_stored (List.cons_ne_nil _ _)
  | shift direction => exact inside.shift direction
  | insert word =>
      refine headInside_iff.2 fun none => ?_
      have behind : tape.behind = [] := headInside_iff.1 inside (List.append_eq_nil_iff.1 none).1
      exact behind
  | clear => exact headInside_iff.2 fun _ => rfl

/-- What holds of fresh tapes and is kept by every operation holds of every tape that has come of them. -/
theorem Reachable.induction {Holds : Tape → Prop}
    (fresh : ∀ alphabet blank, Holds (withBlank alphabet blank))
    (step : ∀ tape operation, Holds tape → Holds (tape.perform operation))
    (reachable : tape.Reachable) : Holds tape := by
  obtain ⟨alphabet, blank, operations, rfl⟩ := reachable
  have holds := fresh alphabet blank
  unfold performAll
  generalize withBlank alphabet blank = first at holds
  induction operations generalizing first with
  | nil => exact holds
  | cons operation operations ih => exact ih (first.perform operation) (step first operation holds)

theorem performAll_concat (operations : List Operation) (last : Operation) :
    tape.performAll (operations ++ [last]) = (tape.performAll operations).perform last := by
  rw [performAll, List.foldl_append]
  rfl

theorem Reachable.perform (reachable : tape.Reachable) (operation : Operation) :
    (tape.perform operation).Reachable := by
  obtain ⟨alphabet, blank, operations, rfl⟩ := reachable
  exact ⟨alphabet, blank, operations ++ [operation], (performAll_concat operations operation).symm⟩

theorem headInside_of_reachable (reachable : tape.Reachable) : tape.HeadInside :=
  reachable.induction headInside_withBlank fun _ operation inside => inside.perform operation

/-! ### What a move does to the position -/

/-- From a stored cell a move to the right counts. -/
theorem moveRight_position (stored : tape.ahead ≠ []) :
    tape.moveRight.position = tape.position + 1 :=
  congrArg InfiniteTape.head (view_moveRight tape stored)

/-- Where no cell is stored, a move to the right only stores one. -/
theorem moveRight_eq_of_unstored (unstored : tape.ahead = []) : tape.moveRight = tape.settle := by
  simp only [moveRight, unstored]

/-- Where the head stands on a stored cell, nothing has to be stored. -/
theorem settle_eq_self (stored : tape.ahead ≠ []) : tape.settle = tape := by
  obtain ⟨cell, rest, ahead⟩ := List.exists_cons_of_ne_nil stored
  simp only [settle, ahead]

theorem settle_position : tape.settle.position = tape.position := by
  simp [position, head]

/-- A move to the left and one back to the right lead to the same symbol. -/
theorem peek_moveRight_moveLeft : tape.moveLeft.moveRight.peek = tape.peek := by
  rw [moveRight_eq_settle _ tape.moveLeft_ahead, peek_settle]
  simp [peek]

/-- The symbol behind a head after a move to the right is the one that it stood on. -/
theorem moveRight_behind_headD (inside : tape.HeadInside) :
    tape.moveRight.behind.headD tape.blank = tape.peek := by
  cases ahead : tape.ahead with
  | nil => simp [moveRight_eq_of_unstored ahead, headInside_iff.1 inside ahead, peek, ahead]
  | cons cell rest => simp [moveRight_eq_settle tape ahead, peek, ahead]

@[simp] theorem moveRight_blank : tape.moveRight.blank = tape.blank := by
  unfold moveRight
  split <;> simp

/-- A move to the right and one back to the left lead to the same symbol, also if the first one is lost:
    then no cell has been written. -/
theorem peek_moveLeft_moveRight (inside : tape.HeadInside) :
    tape.moveRight.moveLeft.peek = tape.peek := by
  rw [peek, moveLeft_ahead, List.headD_cons, moveRight_blank]
  exact moveRight_behind_headD inside

/-- Every move to the left counts, and one to the right after it brings the head back. A move to the right
    counts on a tape with cells, and one to the left after it brings the head back. On a tape without cells the
    move to the right is lost, so that one to the left leads in front of where the head stood. The symbol
    under the head comes back in every case. -/
theorem moves_count_on_stored_cells (reachable : tape.Reachable) :
    tape.moveLeft.position = tape.position - 1 ∧
      tape.moveLeft.moveRight.position = tape.position ∧
      tape.moveLeft.moveRight.peek = tape.peek ∧ tape.moveRight.moveLeft.peek = tape.peek ∧
      (tape.cells ≠ [] → tape.moveRight.position = tape.position + 1 ∧
        tape.moveRight.moveLeft.position = tape.position) ∧
      (tape.cells = [] → tape.moveRight.position = tape.position ∧
        tape.moveRight.moveLeft.position = tape.position - 1) := by
  have inside := headInside_of_reachable reachable
  refine ⟨tape.moveLeft_position, ?_, peek_moveRight_moveLeft, peek_moveLeft_moveRight inside, ?_, ?_⟩
  · rw [moveRight_position (by simp), moveLeft_position]
    omega
  · intro stored
    have counts := moveRight_position (mt inside.cells_eq_nil_iff.2 stored)
    refine ⟨counts, ?_⟩
    rw [moveLeft_position, counts]
    omega
  · intro unstored
    have lost : tape.moveRight.position = tape.position := by
      rw [moveRight_eq_of_unstored (inside.cells_eq_nil_iff.1 unstored), settle_position]
    exact ⟨lost, by rw [moveLeft_position, lost]⟩

/-- A tape that was used, took a part of a refused word, and was cleared and used again. -/
def wornTape : Tape :=
  performAll (withBlank (Alphabet.ofList ['a', 'b']) '#')
    [.shift .left, .write 'b', .insert ['a', 'x', 'b'], .clear, .insert ['b'], .shift .left]

/-- Moves on the worn tape, and on the same tape once it has been cleared. -/
theorem moves_count_on_wornTape :
    wornTape.Reachable ∧ wornTape.cells ≠ [] ∧ wornTape.moveRight.position = wornTape.position + 1 ∧
      wornTape.moveRight.moveLeft.position = wornTape.position ∧
      wornTape.clear.Reachable ∧ wornTape.clear.cells = [] ∧
      wornTape.clear.moveRight.position = wornTape.clear.position := by
  have worn : wornTape.Reachable := ⟨_, _, _, rfl⟩
  have cleared : wornTape.clear.Reachable :=
    ⟨Alphabet.ofList ['a', 'b'], '#',
      [.shift .left, .write 'b', .insert ['a', 'x', 'b'], .clear, .insert ['b'], .shift .left, .clear], rfl⟩
  have stored : wornTape.cells ≠ [] := by decide
  obtain ⟨-, -, -, -, counts, -⟩ := moves_count_on_stored_cells worn
  obtain ⟨-, -, -, -, -, lost⟩ := moves_count_on_stored_cells cleared
  exact ⟨worn, stored, (counts stored).1, (counts stored).2, cleared, rfl, (lost rfl).1⟩

/-- Not every move to the right counts: the first one on a fresh tape is lost. -/
theorem first_move_to_the_right_is_lost :
    ¬ ∀ tape : Tape, tape.Reachable → tape.moveRight.position = tape.position + 1 := by
  intro counts
  have fresh : (ofAlphabet (Alphabet.ofList ['0', '1', '_'])).Reachable := ⟨_, _, [], rfl⟩
  exact absurd (counts _ fresh) (by decide)

end Multitape.Tape
