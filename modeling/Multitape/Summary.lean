/-
Module: Multitape.Summary
Purpose: What is told about a program: its parts by name, states in the order of their names.
Main exports: RuleLine, StateRules, Summary, Summary.ofProgram, Summary.render
-/
import Multitape.Program

namespace Multitape

/-- A rule with its states named. -/
structure RuleLine where
  id : Nat
  source : String
  read : List Char
  target : String
  write : List Char
  directions : List Direction
deriving DecidableEq

/-- The rules of one state in the order of their declaration. -/
structure StateRules where
  state : String
  rules : List RuleLine
deriving DecidableEq

/-- The parts of a program. The order of states here has no effect on a run. -/
structure Summary where
  name : String
  states : List String
  inputAlphabet : List Char
  tapeAlphabet : List Char
  blank : Char
  tapeCount : Nat
  initial : String
  current : String
  accepting : List String
  rules : List StateRules
deriving DecidableEq

/-- Symbols with commas between them. -/
def joinSymbols (symbols : List Char) : String := ", ".intercalate (symbols.map Char.toString)

namespace RuleLine

/-- A rule of a program with its states named. -/
def ofTransition (program : Program) (transition : Transition) : RuleLine where
  id := transition.id
  source := (program.stateAt transition.source).name
  read := transition.read
  target := (program.stateAt transition.target).name
  write := transition.write
  directions := transition.directions

/-- A rule as an equation of the transition function: `(q0, 0, 1) -> (q1, 1, 0, R, L) [ID: 1]`. -/
def render (line : RuleLine) : String :=
  "(" ++ line.source ++ ", " ++ joinSymbols line.read ++ ") -> (" ++ line.target ++ ", " ++
    joinSymbols line.write ++ ", " ++ joinSymbols (line.directions.map Direction.letter) ++
    ") [ID: " ++ toString line.id ++ "]"

end RuleLine

namespace Summary

/-- States in the order of their names. States of one name keep their order. -/
def sortStates (states : List State) : List State :=
  states.mergeSort fun a b => decide (a.name ≤ b.name)

/-- The parts of a program. The current state is told by who knows it. -/
def ofProgram (program : Program) (current : String) : Summary :=
  let states := sortStates program.states
  { name := program.name
    states := states.map (·.name)
    inputAlphabet := program.inputAlphabet.toList
    tapeAlphabet := program.tapeAlphabet.toList
    blank := program.blank
    tapeCount := program.tapeCount
    initial := (program.stateAt program.initial).name
    current := current
    accepting := (states.filter (·.accepting)).map (·.name)
    rules := states.map fun state =>
      ⟨state.name, state.transitions.map (RuleLine.ofTransition program)⟩ }

/-- Texts between braces with commas between them. -/
def braced (text : String) : String := "\x7b" ++ text ++ "\x7d"

/-- The lines of a summary: the parts of the program in the usual letters, then each state with its
    rules. -/
def lines (summary : Summary) : List String :=
  [ "Q -> " ++ braced (", ".intercalate summary.states),
    "Σ -> " ++ braced (joinSymbols summary.inputAlphabet),
    "Γ -> " ++ braced (joinSymbols summary.tapeAlphabet),
    "q0 -> " ++ summary.initial,
    "b -> " ++ summary.blank.toString,
    "F -> " ++ braced (", ".intercalate summary.accepting),
    "tapes -> " ++ toString summary.tapeCount ] ++
  summary.rules.flatMap fun state =>
    ("---- Transitions of state " ++ state.state ++ " ----") :: state.rules.map RuleLine.render

/-- The lines of a summary, each with its end. -/
def render (summary : Summary) : String := String.join (summary.lines.map (· ++ "\n"))

end Summary

end Multitape
