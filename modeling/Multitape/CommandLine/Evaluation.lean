/-
Module: Multitape.CommandLine.Evaluation
Purpose: One input on one machine, as the command line runs it.
Main exports: Outcome, Evaluation, evaluateFrom, evaluate, Evaluation.lines
-/
import Multitape.Machine.Run
import Multitape.Trace

namespace Multitape.CommandLine

/-- How the evaluation of an input ended: by itself, or because the machine had taken as many rules as it
    may. -/
inductive Outcome where
  | halted (halt : Halt)
  | gaveUp (steps : Nat)
deriving DecidableEq

/-- What came of an input: the lines printed on the way, the machine at the end, and the outcome, unless the
    input could not be loaded. -/
structure Evaluation where
  printed : List String
  final : Machine
  result : Except Error Outcome

/-- Whether a machine has taken as many rules as it may. -/
def exhausted (limit : Option Nat) (machine : Machine) : Bool :=
  limit.any (· ≤ machine.stepCount)

/-- Print the configuration of a machine, if a trace is wanted. Printed lines are listed with the last one
    first. -/
def printRow (trace : Bool) (machine : Machine) (printed : List String) : List String :=
  if trace then (TraceRow.ofMachine machine).render :: printed else printed

/-- Step until the machine halts or has taken as many rules as it may, and print a row after every rule taken.
    There is an answer if it comes to that within `fuel` steps. -/
def evaluateFrom (trace : Bool) (limit : Option Nat) :
    Nat → Machine → List String → Option Evaluation
  | 0, _, _ => none
  | fuel + 1, machine, printed =>
      if exhausted limit machine then
        some ⟨printed.reverse, machine, .ok (.gaveUp machine.stepCount)⟩
      else
        match machine.step with
        | (next, .advanced) => evaluateFrom trace limit fuel next (printRow trace next printed)
        | (next, .halted .accepted) =>
            some ⟨(printRow trace next printed).reverse, next, .ok (.halted .accepted)⟩
        | (next, .halted (.rejected reason)) =>
            some ⟨printed.reverse, next, .ok (.halted (.rejected reason))⟩

/-- What a trace begins with. -/
def openingLines (trace : Bool) : List String := if trace then [traceHeader] else []

/-- Evaluate an input. There is an answer if the machine halts or has taken as many rules as it may within
    `fuel` steps. A trace has a row for the machine with the input loaded, if it could be loaded. -/
def evaluate (trace : Bool) (fuel : Nat) (limit : Option Nat) (machine : Machine) (input : List Char) :
    Option Evaluation :=
  match machine.start input with
  | (next, .error error) => some ⟨openingLines trace, next, .error error⟩
  | (next, .ok (.halted halt)) => some ⟨openingLines trace, next, .ok (.halted halt)⟩
  | (next, .ok .advanced) =>
      evaluateFrom trace limit fuel next (printRow trace next (openingLines trace))

/-- What is told about an outcome. -/
def Outcome.report (input : String) : Outcome → String
  | halted .accepted => "The string '" ++ input ++ "' belongs to the language."
  | halted (.rejected reason) =>
      "The string '" ++ input ++ "' does not belong to the language: " ++ reason.message ++ "."
  | gaveUp steps => "Gave up on '" ++ input ++ "' after " ++ toString steps ++ " steps."

/-- The lines printed for an input: those of its evaluation, and the outcome, if there is one. -/
def Evaluation.lines (input : String) (evaluation : Evaluation) : List String :=
  evaluation.printed ++
    (match evaluation.result with
      | .error _ => []
      | .ok outcome => [outcome.report input])

end Multitape.CommandLine
