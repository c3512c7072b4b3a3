/-
Module: Multitape.Machine
Purpose: A machine in the middle of its work: its configuration and the operations on it.
Main exports:
  Rejection, Halt, Step, Status, Machine, Machine.ofProgram, Machine.start, Machine.step, Machine.reset
-/
import Multitape.Error
import Multitape.Program
import Multitape.Text.Quoted

namespace Multitape

/-! ### How a run ends -/

/-- Why an input does not belong to the language of a machine. -/
inductive Rejection where
  /-- The input has a symbol outside the input alphabet. No tape was touched. -/
  | foreignInput (symbol : Char)
  /-- No rule of the state applies to the symbols under the heads. -/
  | stuck (state : String) (symbols : List Char)
deriving DecidableEq

/-- What is told about a rejection. -/
def Rejection.message : Rejection → String
  | foreignInput symbol => "symbol '" ++ symbol.toString ++ "' is not in the input alphabet"
  | stuck state symbols => "no transition from " ++ state ++ " reading " ++ Text.quoteSymbols symbols

/-- How a run ended. -/
inductive Halt where
  | accepted
  | rejected (reason : Rejection)
deriving DecidableEq

/-- Whether the run ended in an accepting state. -/
def Halt.isAccepted : Halt → Bool
  | accepted => true
  | rejected _ => false

/-- What came of one step: the machine can go on, or it has halted. -/
inductive Step where
  | advanced
  | halted (halt : Halt)
deriving DecidableEq

/-- Whether an input is loaded, and whether the machine has come to its end. -/
inductive Status where
  | idle
  | running
  | halted (halt : Halt)
deriving DecidableEq

/-! ### Machines -/

/-- A program at work: one tape for each that the program declares, the place of the current state, the
    rule taken last and the number of rules taken since the last reset. -/
structure Machine where
  program : Program
  tapes : List Tape
  current : Nat
  lastTransition : Option Nat
  stepCount : Nat
  status : Status
deriving DecidableEq

namespace Machine

/-- The machine of a program in its initial state, with no cell stored on any tape. -/
def ofProgram (program : Program) : Machine where
  program := program
  tapes := List.replicate program.tapeCount (Tape.withBlank program.tapeAlphabet program.blank)
  current := program.initial
  lastTransition := none
  stepCount := 0
  status := .idle

/-- The state the machine is in. -/
def currentState (machine : Machine) : State := machine.program.stateAt machine.current

/-- The symbols under the heads. -/
def symbols (machine : Machine) : List Char := machine.tapes.map Tape.peek

/-- How the machine has halted, if it has. -/
def halt? (machine : Machine) : Option Halt :=
  match machine.status with
  | .halted halt => some halt
  | _ => none

/-- Whether the machine has halted in an accepting state. -/
def isAccepted (machine : Machine) : Bool := machine.status == .halted .accepted

/-- Whether every symbol of an input is an input symbol or the wildcard. -/
def isValidInput (machine : Machine) (input : List Char) : Bool :=
  (machine.program.foreignInput? input).isNone

/-- The machine, halted. Nothing else about it changes. -/
def haltWith (machine : Machine) (halt : Halt) : Machine := { machine with status := .halted halt }

/-- Append an input to the first tape and a blank to every other. A symbol outside the tape alphabet
    ends the seeding: the symbols before it stay, the other tapes are not touched, and it is told. -/
def seed (tapes : List Tape) (input : List Char) : List Tape × Option Char :=
  match tapes with
  | [] => ([], none)
  | first :: others =>
      match first.insert input with
      | (first, some symbol) => (first :: others, some symbol)
      | (first, none) => (first :: others.map Tape.pushBlank, none)

/-- Load an input. An input with a symbol outside the input alphabet halts the machine before any tape is
    touched. A symbol that the tapes refuse leaves the machine idle. -/
def start (machine : Machine) (input : List Char) : Machine × Except Error Step :=
  match machine.program.foreignInput? input with
  | some symbol =>
      let halt := Halt.rejected (.foreignInput symbol)
      (machine.haltWith halt, .ok (.halted halt))
  | none =>
      match seed machine.tapes input with
      | (tapes, some symbol) =>
          ({ machine with tapes := tapes, status := .idle }, .error (.foreignSymbol symbol))
      | (tapes, none) => ({ machine with tapes := tapes, status := .running }, .ok .advanced)

/-- Read the tapes. Every head comes to a stored cell. -/
def readTapes (machine : Machine) : Machine :=
  { machine with tapes := machine.tapes.map Tape.settle }

/-- Take a rule: its writes and moves, its target and its number. -/
def apply (machine : Machine) (transition : Transition) : Machine :=
  { machine with
    tapes := transition.execute machine.tapes
    current := transition.target
    lastTransition := some transition.id
    stepCount := machine.stepCount + 1 }

/-- Make one step. A halted machine stays as it is; otherwise the first rule of the current state that
    applies is taken, and the machine halts if there is none or if it comes to an accepting state. -/
def step (machine : Machine) : Machine × Step :=
  match machine.status with
  | .halted halt => (machine, .halted halt)
  | _ =>
      let machine := machine.readTapes
      match machine.currentState.ruleFor? machine.symbols with
      | none =>
          let halt := Halt.rejected (.stuck machine.currentState.name machine.symbols)
          (machine.haltWith halt, .halted halt)
      | some transition =>
          let machine := machine.apply transition
          if machine.currentState.accepting then (machine.haltWith .accepted, .halted .accepted)
          else ({ machine with status := .running }, .advanced)

/-- Bring the machine back to its initial configuration. -/
def reset (machine : Machine) : Machine :=
  { machine with
    tapes := machine.tapes.map Tape.clear
    current := machine.program.initial
    lastTransition := none
    stepCount := 0
    status := .idle }

end Machine

end Multitape
