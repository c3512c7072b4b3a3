/-
Module: Multitape.Description.Printer
Purpose: Programs as descriptions.
Main exports: Description.orderedRules, Description.ruleLine, Description.printLines, Description.print
-/
import Multitape.Program

namespace Multitape.Description

/-- All rules of a program in the order of their declaration. -/
def orderedRules (program : Program) : List Transition :=
  program.transitions.mergeSort fun a b => decide (a.id ≤ b.id)

/-- The name of a state as a word. -/
def stateWord (program : Program) (place : Nat) : List Char := (program.stateAt place).name.toList

/-- The line of a rule: where it starts, what it reads, where it ends, what it writes, how it moves. -/
def ruleLine (program : Program) (transition : Transition) : List (List Char) :=
  stateWord program transition.source :: transition.read.map ([·]) ++
    stateWord program transition.target :: transition.write.map ([·]) ++
    transition.directions.map ([Direction.letter ·])

/-- The lines of a program: its header, the number of its tapes and its rules. -/
def printLines (program : Program) : List (List (List Char)) :=
  [ program.states.map (·.name.toList),
    program.inputAlphabet.toList.map ([·]),
    program.tapeAlphabet.toList.map ([·]),
    [stateWord program program.initial],
    [[program.blank]],
    program.acceptingStates.map (·.name.toList),
    [Nat.toDigits 10 program.tapeCount] ] ++
  (orderedRules program).map (ruleLine program)

/-- The description of a program: its lines, with a space between words. -/
def print (program : Program) : List Char :=
  (printLines program).flatMap fun line => [' '].intercalate line ++ ['\n']

end Multitape.Description
