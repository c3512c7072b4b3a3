/-
Module: Multitape.Tape.History
Purpose: What can be done to a tape, and the tapes that come of it.
Main exports: Tape.Operation, Tape.perform, Tape.performAll, Tape.Reachable
-/
import Multitape.Tape

namespace Multitape.Tape

/-- One thing that is done to a tape. -/
inductive Operation where
  | read
  | write (symbol : Char)
  | shift (direction : Direction)
  | insert (word : List Char)
  | clear
deriving DecidableEq

/-- The tape after an operation. A refused symbol leaves those before it on the tape. -/
def perform (tape : Tape) : Operation → Tape
  | .read => tape.read.2
  | .write symbol => tape.write symbol
  | .shift direction => tape.shift direction
  | .insert word => (tape.insert word).1
  | .clear => tape.clear

/-- The tape after operations done one after the other. -/
def performAll (tape : Tape) (operations : List Operation) : Tape := operations.foldl perform tape

/-- The tape has come from a fresh one. -/
def Reachable (tape : Tape) : Prop :=
  ∃ alphabet blank operations, tape = performAll (withBlank alphabet blank) operations

end Multitape.Tape
