/-
Module: Multitape.Trace
Purpose: What is shown of a machine after each step, and its summary.
Main exports: TraceRow, TraceRow.ofMachine, TraceRow.render, traceHeader, Machine.summary
-/
import Multitape.Machine
import Multitape.Summary
import Multitape.Text.Basic

namespace Multitape

/-- One line of a trace: the number of rules taken, the current state, every tape with its head in
    brackets, and the rule taken last. -/
structure TraceRow where
  step : Nat
  state : String
  tapes : List String
  transition : Option Nat
deriving DecidableEq

/-- A line of three columns. The last one has no width of its own. -/
def traceLine (state tapes transition : String) : String :=
  Text.column 20 state ++ " " ++ Text.column 15 tapes ++ " " ++ transition

/-- The rule above and below the titles of a trace. -/
def traceRule : String := String.ofList (List.replicate 49 '-')

/-- The three lines above a trace. -/
def traceHeader : String :=
  "\n".intercalate [traceRule, traceLine "Current state" "Tape" "Transition", traceRule]

namespace TraceRow

/-- The line of a machine as it stands. -/
def ofMachine (machine : Machine) : TraceRow where
  step := machine.stepCount
  state := machine.currentState.name
  tapes := machine.tapes.map Tape.render
  transition := machine.lastTransition

/-- The columns of a line. A hyphen stands where no rule has been taken. -/
def render (row : TraceRow) : String :=
  traceLine row.state (" | ".intercalate row.tapes)
    (match row.transition with
      | none => "-"
      | some id => toString id)

end TraceRow

/-- What is told about a machine. -/
def Machine.summary (machine : Machine) : Summary :=
  Summary.ofProgram machine.program machine.currentState.name

end Multitape
