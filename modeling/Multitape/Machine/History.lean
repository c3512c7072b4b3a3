/-
Module: Multitape.Machine.History
Purpose: What can be done to a machine, what it answers, and the machines that come of it.
Main exports: Machine.Operation, Machine.perform, Machine.performAll, Machine.Answer,
  Machine.answers, Machine.Reachable, Machine.Ready
-/
import Multitape.Machine.Run

namespace Multitape.Machine

/-- One thing that is done to a machine. A run is done if it ends within its limit. -/
inductive Operation where
  | start (input : List Char)
  | step
  | run (limit : Nat) (input : List Char)
  | reset
deriving DecidableEq

/-- The machine after an operation. A run that does not end is not done. -/
def perform (machine : Machine) : Operation → Machine
  | .start input => (machine.start input).1
  | .step => machine.step.1
  | .run limit input => ((machine.run limit input).map Run.final).getD machine
  | .reset => machine.reset

/-- The machine after operations done one after the other. -/
def performAll (machine : Machine) (operations : List Operation) : Machine :=
  operations.foldl perform machine

/-- What an operation answers. A run that does not end within its limit answers nothing. -/
inductive Answer where
  | started (result : Except Error Step)
  | stepped (step : Step)
  | ran (run : Option Run)
  | reset

/-- What a machine answers to an operation. -/
def answer (machine : Machine) : Operation → Answer
  | .start input => .started (machine.start input).2
  | .step => .stepped machine.step.2
  | .run limit input => .ran (machine.run limit input)
  | .reset => .reset

/-- What a machine answers to operations done one after the other. -/
def answers (machine : Machine) : List Operation → List Answer
  | [] => []
  | operation :: operations => machine.answer operation :: (machine.perform operation).answers operations

/-- The machine has come from the fresh machine of a program. Inputs may have been refused, started
    without a reset, or left in the middle. -/
def Reachable (program : Program) (machine : Machine) : Prop :=
  ∃ operations, machine = (ofProgram program).performAll operations

/-- The machine is fresh, or it has been reset just now. -/
inductive Ready (program : Program) : Machine → Prop where
  | fresh : Ready program (ofProgram program)
  | afterReset {machine : Machine} (reachable : Reachable program machine) :
      Ready program machine.reset

end Multitape.Machine
