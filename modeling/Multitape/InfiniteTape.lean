/-
Module: Multitape.InfiniteTape
Purpose: Tapes without ends, and the one that a stored tape stands for.
Main exports: InfiniteTape, InfiniteTape.ofWord, InfiniteTape.read, InfiniteTape.write,
  InfiniteTape.shift, Tape.view
-/
import Multitape.Tape

namespace Multitape

/-- A tape that goes on in both directions, and the place of its head. No cell is ever missing, so the
    operations know no case of growth. -/
structure InfiniteTape where
  cell : Int → Char
  head : Int

namespace InfiniteTape

/-- A tape that is blank but for a word, which starts under the head. -/
def ofWord (blank : Char) (word : List Char) : InfiniteTape where
  cell place := if 0 ≤ place then word[place.toNat]?.getD blank else blank
  head := 0

/-- The symbol under the head. -/
def read (tape : InfiniteTape) : Char := tape.cell tape.head

/-- Replace the symbol under the head. -/
def write (tape : InfiniteTape) (symbol : Char) : InfiniteTape :=
  { tape with cell := fun place => if place = tape.head then symbol else tape.cell place }

/-- How far a direction takes a head to the right. -/
def displacement : Direction → Int
  | .left => -1
  | .right => 1
  | .stay => 0

/-- Move the head one cell in a direction. -/
def shift (tape : InfiniteTape) (direction : Direction) : InfiniteTape :=
  { tape with head := tape.head + displacement direction }

end InfiniteTape

/-- The endless tape that a stored tape stands for: its cells lie where they lay when the first one was
    stored at the origin, and everything else is blank. -/
def Tape.view (tape : Tape) : InfiniteTape where
  cell place :=
    if 0 ≤ place + tape.offset then tape.cells[(place + tape.offset).toNat]?.getD tape.blank
    else tape.blank
  head := tape.position

end Multitape
