/-
Module: Multitape.Machine.Run
Purpose: Whole runs of a machine and what is seen of them.
Main exports: Machine.stepTimes, Machine.advance, Machine.trajectory, Run, Machine.runToHalt, Machine.run
-/
import Multitape.Machine

namespace Multitape

namespace Machine

/-- The machine after a number of steps. -/
def stepTimes : Nat → Machine → Machine
  | 0, machine => machine
  | count + 1, machine => stepTimes count machine.step.1

/-- Make steps up to the first that halts, and at most `limit` of them: the machine after the last, and what
    that one was. -/
def advance : Nat → Machine → Machine × Step
  | 0, machine => (machine, .advanced)
  | limit + 1, machine =>
      match machine.step with
      | (next, .advanced) => advance limit next
      | (next, .halted halt) => (next, .halted halt)

/-- The same steps with the machine after each of them. -/
def trajectory : Nat → Machine → List Machine × Step
  | 0, _ => ([], .advanced)
  | limit + 1, machine =>
      match machine.step with
      | (next, .advanced) =>
          let (others, last) := trajectory limit next
          (next :: others, last)
      | (next, .halted halt) => ([next], .halted halt)

end Machine

/-- A finished run: the configurations that an observer sees, the machine at the end, and whether the
    input was accepted. -/
structure Run where
  seen : List Machine
  final : Machine
  result : Except Error Bool

namespace Machine

/-- Step until the machine halts, in at most `limit` steps. An observer sees the machine after every rule
    taken, and not after a step that finds none. -/
def runToHalt : Nat → Machine → Option Run
  | 0, _ => none
  | limit + 1, machine =>
      match machine.step with
      | (next, .advanced) => (runToHalt limit next).map fun run => { run with seen := next :: run.seen }
      | (next, .halted .accepted) => some ⟨[next], next, .ok true⟩
      | (next, .halted (.rejected _)) => some ⟨[], next, .ok false⟩

/-- Run an input to its end. There is an answer if the machine halts within `limit` steps; a machine may
    never halt. An input that is refused at the start is not observed. -/
def run (limit : Nat) (machine : Machine) (input : List Char) : Option Run :=
  match machine.start input with
  | (next, .error error) => some ⟨[], next, .error error⟩
  | (next, .ok (.halted halt)) => some ⟨[], next, .ok halt.isAccepted⟩
  | (next, .ok .advanced) =>
      (runToHalt limit next).map fun run => { run with seen := next :: run.seen }

end Machine

end Multitape
