/-
Module: Multitape.Proofs.TapeView
Purpose: A stored tape shows an endless one, and does to it what the endless tape does itself.
  Growth at either end is never seen. The one operation with a premise is the move to the right,
  which needs a stored cell under the head.
Main exports: Tape.view_settle, Tape.view_write, Tape.view_moveLeft, Tape.view_moveRight,
  Tape.view_withBlank_ahead, Transition.map_view_execute
-/
import Multitape.Configuration

namespace Multitape

/-- Two endless tapes are one if their heads stand at one place and both sides of it agree. -/
theorem InfiniteTape.eq_of_around {first second : InfiniteTape} (head : first.head = second.head)
    (right : ∀ distance : Nat,
      first.cell (first.head + distance) = second.cell (first.head + distance))
    (left : ∀ distance : Nat,
      first.cell (first.head - 1 - distance) = second.cell (first.head - 1 - distance)) :
    first = second := by
  obtain ⟨firstCell, firstHead⟩ := first
  obtain ⟨secondCell, secondHead⟩ := second
  obtain rfl : firstHead = secondHead := head
  congr 1
  funext place
  rcases Int.lt_or_le place firstHead with before | after
  · have same := left (firstHead - 1 - place).toNat
    have distance : firstHead - 1 - ((firstHead - 1 - place).toNat : Int) = place := by omega
    rwa [distance] at same
  · have same := right (place - firstHead).toNat
    have distance : firstHead + ((place - firstHead).toNat : Int) = place := by omega
    rwa [distance] at same

namespace Tape

variable (tape : Tape)

/-! ### What the operations leave of the fields -/

@[simp] theorem settle_behind : tape.settle.behind = tape.behind := by
  unfold settle
  split <;> rfl

@[simp] theorem settle_offset : tape.settle.offset = tape.offset := by
  unfold settle
  split <;> rfl

@[simp] theorem settle_alphabet : tape.settle.alphabet = tape.alphabet := by
  unfold settle
  split <;> rfl

@[simp] theorem settle_blank : tape.settle.blank = tape.blank := by
  unfold settle
  split <;> rfl

@[simp] theorem settle_ahead_ne_nil : tape.settle.ahead ≠ [] := by
  unfold settle
  split
  · simp
  · rename_i stored
    simp [stored]

@[simp] theorem peek_settle : tape.settle.peek = tape.peek := by
  unfold settle
  split
  · rename_i empty
    simp [peek, empty]
  · rfl

/-- Beyond its stored cells a tape is blank, so a blank that is stored there is not seen. -/
theorem settle_getElem? (distance : Nat) :
    tape.settle.ahead[distance]?.getD tape.blank = tape.ahead[distance]?.getD tape.blank := by
  unfold settle
  split
  · rename_i empty
    cases distance <;> simp [empty]
  · rfl

@[simp] theorem moveLeft_behind : tape.moveLeft.behind = tape.behind.tail := by
  unfold moveLeft
  split <;> rename_i stored <;> simp [stored]

@[simp] theorem moveLeft_ahead :
    tape.moveLeft.ahead = tape.behind.headD tape.blank :: tape.ahead := by
  unfold moveLeft
  split <;> rename_i stored <;> simp [stored]

@[simp] theorem moveLeft_alphabet : tape.moveLeft.alphabet = tape.alphabet := by
  unfold moveLeft
  split <;> rfl

@[simp] theorem moveLeft_blank : tape.moveLeft.blank = tape.blank := by
  unfold moveLeft
  split <;> rfl

theorem moveLeft_position : tape.moveLeft.position = tape.position - 1 := by
  unfold moveLeft position head
  split
  · rename_i first
    simp only [first, List.length_nil]
    omega
  · rename_i stored
    simp only [stored, List.length_cons]
    omega

/-- A head on a stored cell leaves that cell behind. -/
theorem moveRight_eq_settle {cell : Char} {rest : List Char} (stored : tape.ahead = cell :: rest) :
    tape.moveRight = { tape with behind := cell :: tape.behind, ahead := rest }.settle := by
  simp [moveRight, stored]

/-! ### The view around the head -/

@[simp] theorem view_head : tape.view.head = tape.position := rfl

/-- To the right of the head the view shows the cells ahead. -/
theorem view_cell_right (distance : Nat) :
    tape.view.cell (tape.position + distance) = tape.ahead[distance]?.getD tape.blank := by
  have index :
      tape.position + distance + tape.offset = ((tape.behind.length + distance : Nat) : Int) := by
    simp only [position, head]
    omega
  have stored : (tape.behind.reverse ++ tape.ahead)[tape.behind.length + distance]? =
      tape.ahead[distance]? := by
    rw [List.getElem?_append_right (by simp)]
    simp
  simp only [view, index, Int.natCast_nonneg, if_true, Int.toNat_natCast, cells, stored]

/-- To the left of the head the view shows the cells behind, the nearest first. -/
theorem view_cell_left (distance : Nat) :
    tape.view.cell (tape.position - 1 - distance) = tape.behind[distance]?.getD tape.blank := by
  have index : tape.position - 1 - distance + tape.offset = tape.behind.length - 1 - distance := by
    simp only [position, head]
    omega
  simp only [view, index]
  by_cases inside : distance < tape.behind.length
  · have place : (tape.behind.length : Int) - 1 - distance =
        ((tape.behind.length - 1 - distance : Nat) : Int) := by omega
    have stored : (tape.behind.reverse ++ tape.ahead)[tape.behind.length - 1 - distance]? =
        tape.behind[distance]? := by
      rw [List.getElem?_append_left (by simp; omega), List.getElem?_reverse (by omega)]
      congr 1
      omega
    simp only [place, Int.natCast_nonneg, if_true, Int.toNat_natCast, cells, stored]
  · rw [if_neg (by omega), List.getElem?_eq_none (by omega), Option.getD_none]

/-- The view is known from the cells on both sides of the head. -/
theorem view_eq_of_around {tape : Tape} {other : InfiniteTape} (head : tape.position = other.head)
    (right : ∀ distance : Nat,
      tape.ahead[distance]?.getD tape.blank = other.cell (other.head + distance))
    (left : ∀ distance : Nat,
      tape.behind[distance]?.getD tape.blank = other.cell (other.head - 1 - distance)) :
    tape.view = other := by
  refine InfiniteTape.eq_of_around head (fun distance => ?_) (fun distance => ?_)
  · rw [view_head, view_cell_right, right, head]
  · rw [view_head, view_cell_left, left, head]

/-! ### Operations seen through the view -/

/-- The symbol under the head is the one the view shows there. -/
theorem view_read : tape.view.read = tape.peek := by
  have shown := tape.view_cell_right 0
  rw [Int.natCast_zero, Int.add_zero] at shown
  rw [InfiniteTape.read, view_head, shown]
  cases stored : tape.ahead <;> simp [peek, stored]

/-- A blank that is stored under the head is not seen. -/
@[simp] theorem view_settle : tape.settle.view = tape.view := by
  have position : tape.settle.position = tape.position := by simp [position, head]
  refine view_eq_of_around position (fun distance => ?_) (fun distance => ?_)
  · rw [view_head, view_cell_right, settle_blank, settle_getElem?]
  · rw [view_head, view_cell_left, settle_blank, settle_behind]

theorem view_write (symbol : Char) : (tape.write symbol).view = tape.view.write symbol := by
  refine view_eq_of_around rfl (fun distance => ?_) (fun distance => ?_)
  · cases distance with
    | zero => simp [write, InfiniteTape.write]
    | succ distance =>
        have elsewhere : tape.position + ((distance + 1 : Nat) : Int) ≠ tape.position := by omega
        simp only [InfiniteTape.write, view_head, if_neg elsewhere, view_cell_right]
        simp [write]
  · have elsewhere : tape.position - 1 - (distance : Int) ≠ tape.position := by omega
    simp only [InfiniteTape.write, view_head, if_neg elsewhere, view_cell_left]
    rfl

theorem view_moveLeft : tape.moveLeft.view = tape.view.shift .left := by
  refine view_eq_of_around tape.moveLeft_position (fun distance => ?_) (fun distance => ?_)
  · simp only [InfiniteTape.shift, InfiniteTape.displacement, view_head, moveLeft_ahead,
      moveLeft_blank]
    cases distance with
    | zero =>
        have shown := tape.view_cell_left 0
        have place :
            tape.position + -1 + ((0 : Nat) : Int) = tape.position - 1 - ((0 : Nat) : Int) := by
          omega
        rw [place, shown]
        cases tape.behind <;> rfl
    | succ distance =>
        have place :
            tape.position + -1 + ((distance + 1 : Nat) : Int) = tape.position + distance := by
          omega
        rw [place, view_cell_right, List.getElem?_cons_succ]
  · simp only [InfiniteTape.shift, InfiniteTape.displacement, view_head, moveLeft_behind,
      moveLeft_blank]
    have place : tape.position + -1 - 1 - (distance : Int) =
        tape.position - 1 - ((distance + 1 : Nat) : Int) := by omega
    rw [place, view_cell_left, List.getElem?_tail]

/-- A move to the right needs a stored cell to leave behind. -/
theorem view_moveRight (stored : tape.ahead ≠ []) :
    tape.moveRight.view = tape.view.shift .right := by
  obtain ⟨cell, rest, ahead⟩ := List.exists_cons_of_ne_nil stored
  rw [moveRight_eq_settle tape ahead, view_settle]
  refine view_eq_of_around ?_ (fun distance => ?_) (fun distance => ?_)
  · simp only [position, head, InfiniteTape.shift, InfiniteTape.displacement, view_head,
      List.length_cons]
    omega
  · have place :
        tape.position + 1 + (distance : Int) = tape.position + ((distance + 1 : Nat) : Int) := by
      omega
    simp only [InfiniteTape.shift, InfiniteTape.displacement, view_head]
    rw [place, view_cell_right, ahead, List.getElem?_cons_succ]
  · simp only [InfiniteTape.shift, InfiniteTape.displacement, view_head]
    cases distance with
    | zero =>
        have place :
            tape.position + 1 - 1 - ((0 : Nat) : Int) = tape.position + ((0 : Nat) : Int) := by
          omega
        rw [place, view_cell_right, ahead]
        rfl
    | succ distance =>
        have place : tape.position + 1 - 1 - ((distance + 1 : Nat) : Int) =
            tape.position - 1 - (distance : Int) := by omega
        rw [place, view_cell_left, List.getElem?_cons_succ]

theorem view_shift (stored : tape.ahead ≠ []) (direction : Direction) :
    (tape.shift direction).view = tape.view.shift direction := by
  cases direction with
  | left => exact tape.view_moveLeft
  | right => exact tape.view_moveRight stored
  | stay =>
      simp only [shift, InfiniteTape.shift, InfiniteTape.displacement, Int.add_zero]

/-- A tape on which nothing but a word was put, all of it in the alphabet, shows that word. -/
theorem view_withBlank_ahead (alphabet : Alphabet) (blank : Char) (word : List Char) :
    { withBlank alphabet blank with ahead := word }.view = InfiniteTape.ofWord blank word := by
  refine view_eq_of_around rfl (fun distance => ?_) (fun distance => ?_)
  · simp [withBlank, InfiniteTape.ofWord]
  · have negative : ¬ (0 : Int) ≤ 0 - 1 - distance := by omega
    simp only [withBlank, InfiniteTape.ofWord, if_neg negative, List.getElem?_nil, Option.getD_none]

end Tape

namespace Transition

/-- Writing everywhere and then moving everywhere is, tape by tape, writing and moving. After its
    write a head stands on a stored cell, so no move is lost. -/
theorem map_view_shiftAll_writeAll {tapes : List Tape} {symbols : List Char}
    {directions : List Direction} (writes : symbols.length = tapes.length)
    (moves : directions.length = tapes.length) :
    (shiftAll (writeAll tapes symbols) directions).map Tape.view =
      ((tapes.map Tape.view).zip (symbols.zip directions)).map fun entry =>
        (entry.1.write entry.2.1).shift entry.2.2 := by
  induction tapes generalizing symbols directions with
  | nil => simp [writeAll, shiftAll]
  | cons tape tapes ih =>
      obtain ⟨symbol, symbols, rfl⟩ := List.exists_cons_of_length_eq_add_one writes
      obtain ⟨direction, directions, rfl⟩ := List.exists_cons_of_length_eq_add_one moves
      have first : ((tape.write symbol).shift direction).view =
          (tape.view.write symbol).shift direction := by
        rw [Tape.view_shift _ (by simp [Tape.write]), Tape.view_write]
      have others := ih (Nat.succ.inj writes) (Nat.succ.inj moves)
      simp only [writeAll, shiftAll, List.map_cons, List.zip_cons_cons, first, others]

/-- A rule does to the tapes what it does to the endless tapes that they show, if it has a symbol
    and a direction for each. -/
theorem map_view_execute (transition : Transition) {tapes : List Tape}
    (writes : transition.write.length = tapes.length)
    (moves : transition.directions.length = tapes.length) :
    (transition.execute tapes).map Tape.view = Configuration.act transition (tapes.map Tape.view) :=
  map_view_shiftAll_writeAll writes moves

end Transition

end Multitape
