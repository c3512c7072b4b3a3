/-
Module: Multitape.Direction
Purpose: The three moves of a head and their letters.
Main exports: Direction, Direction.letter, Direction.ofLetter?, Direction.ofLetters
-/
namespace Multitape

/-- Where a head goes after its cell has been written. -/
inductive Direction where
  | left
  | right
  | stay
deriving DecidableEq, Repr, Inhabited

namespace Direction

/-- The letter that stands for a direction in a machine description. -/
def letter : Direction → Char
  | left => 'L'
  | right => 'R'
  | stay => 'S'

/-- The direction of a letter. Only the three capital letters are directions. -/
def ofLetter? : Char → Option Direction
  | 'L' => some left
  | 'R' => some right
  | 'S' => some stay
  | _ => none

/-- The directions of a row of letters, or the first letter that is none. -/
def ofLetters : List Char → Except Char (List Direction)
  | [] => .ok []
  | first :: rest =>
      match ofLetter? first with
      | none => .error first
      | some direction => (ofLetters rest).map (direction :: ·)

/-- A direction is read back from its letter. -/
@[simp] theorem ofLetter?_letter (direction : Direction) : ofLetter? direction.letter = some direction := by
  cases direction <;> rfl

end Direction

end Multitape
