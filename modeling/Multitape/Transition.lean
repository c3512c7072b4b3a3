/-
Module: Multitape.Transition
Purpose: The rules of a machine: what they match and what they do to the tapes.
Main exports: Transition, Transition.accepts, Transition.isApplicable, Transition.execute
-/
import Multitape.Tape

namespace Multitape

/-- A rule of one state, with one entry of `read`, `write` and `directions` for each tape. States are
    named by their place in the order of declaration, and `id` is the place of the rule, counted from 1. -/
structure Transition where
  id : Nat
  source : Nat
  target : Nat
  read : List Char
  write : List Char
  directions : List Direction
deriving DecidableEq, Inhabited

namespace Transition

/-- Whether read entries accept the symbols under the heads: there are as many of one as of the other,
    and each entry is the wildcard or its symbol. -/
def accepts : List Char → List Char → Bool
  | [], [] => true
  | entry :: entries, symbol :: symbols =>
      (entry == wildcard || entry == symbol) && accepts entries symbols
  | _, _ => false

/-- Whether the rule matches the symbols under the heads. -/
def isApplicable (transition : Transition) (symbols : List Char) : Bool :=
  accepts transition.read symbols

/-- Write symbols to the first tapes, one each. Surplus symbols have no tape, surplus tapes keep theirs. -/
def writeAll : List Tape → List Char → List Tape
  | tape :: tapes, symbol :: symbols => tape.write symbol :: writeAll tapes symbols
  | tapes, _ => tapes

/-- Move the heads of the first tapes, one direction each. -/
def shiftAll : List Tape → List Direction → List Tape
  | tape :: tapes, direction :: directions => tape.shift direction :: shiftAll tapes directions
  | tapes, _ => tapes

/-- The tapes after the rule: every symbol is written before any head moves. -/
def execute (transition : Transition) (tapes : List Tape) : List Tape :=
  shiftAll (writeAll tapes transition.write) transition.directions

end Transition

end Multitape
