/-
Module: Multitape.Analysis
Purpose: Suspicious but legal properties of a program.
Main exports: Warning, Warning.message, Program.successors, Program.explore, Program.reachable,
  Program.warnings
-/
import Multitape.Program
import Multitape.Text.Quoted

namespace Multitape

/-- What is suspicious about a program. No warning keeps a machine from running. -/
inductive Warning where
  /-- No state is accepting, so every input is rejected. -/
  | noAcceptingStates
  /-- States to which no rules lead from the initial state. -/
  | unreachableStates (names : List String)
  /-- States without rules that do not accept: a run that enters one rejects. -/
  | deadEndStates (names : List String)
  /-- Input symbols that no tape takes: an input with one of them cannot be loaded. -/
  | foreignInputSymbols (symbols : List Char)
deriving DecidableEq

/-- What is told about a warning. -/
def Warning.message : Warning → String
  | noAcceptingStates => "No accepting states defined"
  | unreachableStates names => "Unreachable states detected: " ++ Text.quoteNames names
  | deadEndStates names => "Non-accepting states without transitions: " ++ Text.quoteNames names
  | foreignInputSymbols symbols =>
      "Input symbols missing from the tape alphabet: " ++ Text.quoteSymbols symbols

/-- Names by code point. -/
def sortNames (names : List String) : List String := names.mergeSort (fun a b => decide (a ≤ b))

namespace Program

/-! ### Reachable states -/

/-- The targets of the rules of a state, one for each rule. -/
def successors (program : Program) (place : Nat) : List Nat :=
  (program.stateAt place).transitions.map (·.target)

/-- The states that are not found yet. -/
def unexplored (program : Program) (found : List Nat) : List Nat :=
  (List.range program.states.length).filter (· ∉ found)

/-- A place beyond the last state has no rules. -/
theorem successors_eq_nil {program : Program} {place : Nat}
    (beyond : program.states.length ≤ place) : program.successors place = [] := by
  simp [successors, stateAt, List.getElem?_eq_none beyond, State.named]

/-- A state that is found is no longer unexplored; the others still are. -/
theorem unexplored_cons (program : Program) (found : List Nat) (place : Nat) :
    program.unexplored (place :: found) = (program.unexplored found).filter (· ≠ place) := by
  simp only [unexplored, List.filter_filter]
  congr 1
  funext other
  simp [Bool.decide_and]

/-- Finding a state of the program for the first time leaves fewer unexplored. -/
theorem length_unexplored_cons_lt {program : Program} {found : List Nat} {place : Nat}
    (inside : place < program.states.length) (fresh : place ∉ found) :
    (program.unexplored (place :: found)).length < (program.unexplored found).length := by
  rw [unexplored_cons, List.length_filter_lt_length_iff_exists]
  exact ⟨place, by simp [unexplored, inside, fresh], by simp⟩

/-- Finding more never makes more unexplored. -/
theorem length_unexplored_cons_le (program : Program) (found : List Nat) (place : Nat) :
    (program.unexplored (place :: found)).length ≤ (program.unexplored found).length := by
  rw [unexplored_cons]
  exact List.length_filter_le _ _

/-- Follow rules from pending states until nothing new is found. Every round takes a pending state away;
    it adds others only when it finds a state of the program for the first time. -/
def explore (program : Program) (found pending : List Nat) : List Nat :=
  match pending with
  | [] => found
  | place :: rest =>
      if place ∈ found then program.explore found rest
      else
        program.explore (place :: found)
          ((program.successors place).filter (· ∉ place :: found) ++ rest)
termination_by ((program.unexplored found).length, pending.length)
decreasing_by
  · exact Prod.Lex.right _ (by simp)
  · rename_i fresh
    by_cases inside : place < program.states.length
    · exact Prod.Lex.left _ _ (length_unexplored_cons_lt inside fresh)
    · have beyond := Nat.le_of_not_lt inside
      rw [successors_eq_nil beyond]
      rcases Nat.lt_or_eq_of_le (program.length_unexplored_cons_le found place) with fewer | same
      · exact Prod.Lex.left _ _ fewer
      · rw [same]
        exact Prod.Lex.right _ (by simp)

/-- The places of the states that rules lead to from the initial state, itself included. -/
def reachable (program : Program) : List Nat := program.explore [] [program.initial]

/-! ### Warnings -/

/-- The names of the states to which no rules lead. -/
def unreachableNames (program : Program) : List String :=
  let found := program.reachable
  (program.unexplored found).map fun place => (program.stateAt place).name

/-- The names of the states without rules that do not accept. -/
def deadEndNames (program : Program) : List String :=
  (program.states.filter fun state => !state.accepting && state.transitions.isEmpty).map (·.name)

/-- The input symbols that are no tape symbols. -/
def foreignInputSymbols (program : Program) : List Char :=
  program.inputAlphabet.toList.filter (!program.tapeAlphabet.contains ·)

/-- A warning about items, if there are any. -/
def warnOf {α : Type} (warning : List α → Warning) (items : List α) : List Warning :=
  if items.isEmpty then [] else [warning items]

/-- All that is suspicious about a program: accepting states, reachable states, dead ends and input
    symbols are looked at in this order. -/
def warnings (program : Program) : List Warning :=
  (if program.acceptingStates.isEmpty then [Warning.noAcceptingStates] else []) ++
    warnOf .unreachableStates (sortNames program.unreachableNames) ++
    warnOf .deadEndStates (sortNames program.deadEndNames) ++
    warnOf .foreignInputSymbols program.foreignInputSymbols

end Program

end Multitape
