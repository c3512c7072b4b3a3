/-
Module: Multitape.Tape
Purpose: A tape that stores the cells its head has visited and grows by one blank at either end.
Main exports:
  Tape, Tape.cells, Tape.head, Tape.read, Tape.peek, Tape.write, Tape.moveLeft, Tape.moveRight,
  Tape.shift, Tape.insert, Tape.clear, Tape.position, Tape.render
-/
import Multitape.Alphabet
import Multitape.Direction

namespace Multitape

/-!
Only visited cells are stored.  They are kept on the two sides of the head, so that a step costs the same
wherever the head stands.  Before a cell is read or written, and after every move to the right, the head is
given a stored cell: beyond the right end that is one new blank cell.  A move to the left of the first cell
puts a blank in front and counts it in `offset`.
-/

/-- The stored cells behind the head, the nearest first, those from the head on, and how many cells were put
    in front of the first one since the tape was last cleared. -/
structure Tape where
  behind : List Char
  ahead : List Char
  offset : Nat
  alphabet : Alphabet
  blank : Char
deriving DecidableEq, Inhabited

namespace Tape

/-- A tape without stored cells, which grows by `blank`. -/
def withBlank (alphabet : Alphabet) (blank : Char) : Tape :=
  { behind := [], ahead := [], offset := 0, alphabet := alphabet, blank := blank }

/-- A tape without stored cells, which grows by the default blank. -/
def ofAlphabet (alphabet : Alphabet) : Tape := withBlank alphabet defaultBlank

/-- The stored cells from left to right. -/
def cells (tape : Tape) : List Char := tape.behind.reverse ++ tape.ahead

/-- How many cells are stored before the one under the head. -/
def head (tape : Tape) : Nat := tape.behind.length

/-- The symbol under the head. A cell that is not stored yet is blank. -/
def peek (tape : Tape) : Char := tape.ahead.headD tape.blank

/-- Store a blank under a head that stands on no stored cell. -/
def settle (tape : Tape) : Tape :=
  match tape.ahead with
  | [] => { tape with ahead := [tape.blank] }
  | _ :: _ => tape

/-- The symbol under the head, and the tape on which its cell is stored. -/
def read (tape : Tape) : Char × Tape := (tape.settle.peek, tape.settle)

/-- Replace the symbol under the head. The new symbol is not checked against the alphabet: the
    transitions of a program write tape symbols only. -/
def write (tape : Tape) (symbol : Char) : Tape := { tape with ahead := symbol :: tape.ahead.tail }

/-- Move the head one cell to the right. On a tape without stored cells the first cell is stored, and the
    head stands on it. -/
def moveRight (tape : Tape) : Tape :=
  match tape.ahead with
  | [] => tape.settle
  | cell :: ahead => { tape with behind := cell :: tape.behind, ahead := ahead }.settle

/-- Move the head one cell to the left. In front of the first cell a blank is put there. -/
def moveLeft (tape : Tape) : Tape :=
  match tape.behind with
  | [] => { tape with ahead := tape.blank :: tape.ahead, offset := tape.offset + 1 }
  | cell :: behind => { tape with behind := behind, ahead := cell :: tape.ahead }

/-- Move the head one cell in a direction. -/
def shift (tape : Tape) : Direction → Tape
  | .left => tape.moveLeft
  | .right => tape.moveRight
  | .stay => tape

/-- Append a word up to its first symbol outside the alphabet, and tell that symbol. The symbols before
    it stay on the tape. -/
def insert (tape : Tape) (word : List Char) : Tape × Option Char :=
  ({ tape with ahead := tape.ahead ++ word.takeWhile tape.alphabet.contains },
    (word.dropWhile tape.alphabet.contains).head?)

/-- Append one blank cell. -/
def pushBlank (tape : Tape) : Tape := { tape with ahead := tape.ahead ++ [tape.blank] }

/-- Forget all cells and bring the head back to the origin. -/
def clear (tape : Tape) : Tape := { tape with behind := [], ahead := [], offset := 0 }

/-- Where the head stands, counted from the first cell of the first contents. -/
def position (tape : Tape) : Int := (tape.head : Int) - (tape.offset : Int)

/-- The stored cells as text. -/
def contents (tape : Tape) : String := String.ofList tape.cells

/-- The stored cells with the one under the head in brackets, for example `ab[c]_`. A head that has no
    stored cell shows the blank. -/
def render (tape : Tape) : String :=
  String.ofList
    (tape.behind.reverse ++ '[' :: tape.peek :: ']' :: tape.ahead.tail)

end Tape

end Multitape
