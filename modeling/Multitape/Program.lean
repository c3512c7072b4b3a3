/-
Module: Multitape.Program
Purpose: States and the table of a machine.
Main exports:
  State, Program, Program.stateAt, Program.findState?, Program.acceptingStates,
  Program.transitionCount, Program.foreignInput?
-/
import Multitape.Transition

namespace Multitape

/-- A state and its rules. The first rule that applies is taken, so their order matters. -/
structure State where
  name : String
  initial : Bool
  accepting : Bool
  transitions : List Transition
deriving DecidableEq, Inhabited

namespace State

/-- A state without rules that is neither initial nor accepting. -/
def named (name : String) : State :=
  { name := name, initial := false, accepting := false, transitions := [] }

/-- Mark a state as the initial one. -/
def setInitial (state : State) : State := { state with initial := true }

/-- Mark a state as accepting. -/
def setAccepting (state : State) : State := { state with accepting := true }

/-- Add a rule after those the state has. -/
def addTransition (state : State) (transition : Transition) : State :=
  { state with transitions := state.transitions ++ [transition] }

/-- The rule that is taken on the symbols under the heads: the first that applies. -/
def ruleFor? (state : State) (symbols : List Char) : Option Transition :=
  state.transitions.find? (·.isApplicable symbols)

end State

/-- The table of a machine. States stand in the order of their declaration, and rules name them by
    their place in it. -/
structure Program where
  name : String
  states : List State
  inputAlphabet : Alphabet
  tapeAlphabet : Alphabet
  blank : Char
  tapeCount : Nat
  initial : Nat
deriving DecidableEq, Inhabited

namespace Program

/-- The same table under another name. -/
def withName (program : Program) (name : String) : Program := { program with name := name }

/-- The state at a place. Beyond the last there is a nameless state without rules. -/
def stateAt (program : Program) (place : Nat) : State :=
  program.states[place]?.getD (State.named "")

/-- The place of the first state with a name. -/
def findState? (program : Program) (name : String) : Option Nat :=
  program.states.findIdx? (·.name == name)

/-- The accepting states in the order of declaration. -/
def acceptingStates (program : Program) : List State := program.states.filter (·.accepting)

/-- All rules, state by state. -/
def transitions (program : Program) : List Transition := program.states.flatMap (·.transitions)

/-- How many rules the table has. -/
def transitionCount (program : Program) : Nat := program.transitions.length

/-- The first symbol of an input that is neither an input symbol nor the wildcard. -/
def foreignInput? (program : Program) (input : List Char) : Option Char :=
  input.find? fun symbol => symbol != wildcard && !program.inputAlphabet.contains symbol

end Program

end Multitape
