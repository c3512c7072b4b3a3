/-
Module: Multitape.Proofs.EvaluationLoop
Purpose: What the loop of an evaluation comes to, in terms of steps. It goes round as long as it may take
  another rule and the machine advances, and prints a row each time; it ends where no more rules may
  be taken, or with the step that halts the machine. From a fresh machine the first is so after as
  many rules as the limit says.
Main exports: traceRows, GoesOn, haltedEvaluation, stoppedEvaluation, evaluateFrom_eq_some_iff,
  evaluateFrom_none_eq_some_iff, evaluateFrom_some_eq_some_iff, exists_unloaded,
  evaluate_some_eq_some_iff, Agrees, evaluate_none_agrees
-/
import Mathlib.Data.Option.Basic
import Multitape.CommandLine.Evaluation
import Multitape.Proofs.MachineHistory

namespace Multitape.CommandLine

open Machine

/-! ### Rows -/

/-- The rows of a trace that goes through some configurations. -/
def traceRows (machines : List Machine) : List String :=
  machines.map fun machine => (TraceRow.ofMachine machine).render

/-- The rows that are printed for some configurations. -/
def shownRows (trace : Bool) (machines : List Machine) : List String :=
  if trace then traceRows machines else []

@[simp] theorem shownRows_nil (trace : Bool) : shownRows trace [] = [] := by
  cases trace <;> rfl

/-- A row that has been printed is the first of those that are printed in all. -/
theorem reverse_printRow_append (trace : Bool) (machine : Machine) (printed : List String)
    (others : List Machine) :
    (printRow trace machine printed).reverse ++ shownRows trace others =
      printed.reverse ++ shownRows trace (machine :: others) := by
  cases trace <;> simp [printRow, shownRows, traceRows]

/-! ### Rounds -/

variable {trace : Bool} {limit : Option Nat} {machine : Machine} {count : Nat}

/-- The loop goes round a number of times: another rule may be taken, and the machine advances. -/
def GoesOn (limit : Option Nat) (machine : Machine) (count : Nat) : Prop :=
  ∀ earlier < count, exhausted limit (stepTimes earlier machine) = false ∧
    (stepTimes earlier machine).step.2 = .advanced

/-- The configurations after each of a number of steps. -/
def stepsOf (count : Nat) (machine : Machine) : List Machine :=
  (List.range count).map fun earlier => stepTimes (earlier + 1) machine

/-- What an evaluation comes to that is stopped after a number of rounds. -/
def stoppedEvaluation (trace : Bool) (printed : List String) (machine : Machine) (count : Nat) :
    Evaluation where
  printed := printed.reverse ++ shownRows trace (stepsOf count machine)
  final := stepTimes count machine
  result := .ok (.gaveUp (stepTimes count machine).stepCount)

/-- What an evaluation comes to if the machine halts after a number of rounds. -/
def haltedEvaluation (trace : Bool) (printed : List String) (machine : Machine) (count : Nat)
    (halt : Halt) : Evaluation where
  printed := printed.reverse ++ shownRows trace (machine.haltedRun count halt).seen
  final := stepTimes (count + 1) machine
  result := .ok (.halted halt)

/-- How an evaluation ends after a number of rounds. -/
inductive Ending (trace : Bool) (limit : Option Nat) (printed : List String) (machine : Machine)
    (count : Nat) : Evaluation → Prop where
  | stopped (spent : exhausted limit (stepTimes count machine) = true) :
      Ending trace limit printed machine count (stoppedEvaluation trace printed machine count)
  | halted {halt : Halt} (allowed : exhausted limit (stepTimes count machine) = false)
      (halts : (stepTimes count machine).step.2 = .halted halt) :
      Ending trace limit printed machine count (haltedEvaluation trace printed machine count halt)

theorem goesOn_zero (limit : Option Nat) (machine : Machine) : GoesOn limit machine 0 :=
  fun earlier below => absurd below (Nat.not_lt_zero earlier)

theorem goesOn_succ_iff :
    GoesOn limit machine (count + 1) ↔
      (exhausted limit machine = false ∧ machine.step.2 = .advanced) ∧
        GoesOn limit machine.step.1 count := by
  constructor
  · intro goesOn
    exact ⟨goesOn 0 (Nat.succ_pos count),
      fun earlier below => goesOn (earlier + 1) (Nat.succ_lt_succ below)⟩
  · rintro ⟨first, others⟩ earlier below
    cases earlier with
    | zero => exact first
    | succ earlier => exact others earlier (Nat.lt_of_succ_lt_succ below)

/-- The first round prints the first row. -/
theorem stoppedEvaluation_succ (trace : Bool) (printed : List String) (machine : Machine)
    (count : Nat) :
    stoppedEvaluation trace printed machine (count + 1) =
      stoppedEvaluation trace (printRow trace machine.step.1 printed) machine.step.1 count := by
  have first : stepsOf (count + 1) machine = machine.step.1 :: stepsOf count machine.step.1 := by
    simp [stepsOf, List.range_succ_eq_map, Function.comp_def, stepTimes]
  simp only [stoppedEvaluation, reverse_printRow_append, first, stepTimes]

theorem haltedEvaluation_succ (trace : Bool) (printed : List String) (machine : Machine)
    (count : Nat) (halt : Halt) :
    haltedEvaluation trace printed machine (count + 1) halt =
      haltedEvaluation trace (printRow trace machine.step.1 printed) machine.step.1 count halt := by
  simp only [haltedEvaluation, reverse_printRow_append, haltedRun_succ, stepTimes]

/-- One round of the loop. -/
theorem evaluateFrom_succ (trace : Bool) (limit : Option Nat) (fuel : Nat) (machine : Machine)
    (printed : List String) :
    evaluateFrom trace limit (fuel + 1) machine printed =
      if exhausted limit machine then some (stoppedEvaluation trace printed machine 0)
      else match machine.step.2 with
        | .advanced =>
            evaluateFrom trace limit fuel machine.step.1 (printRow trace machine.step.1 printed)
        | .halted halt => some (haltedEvaluation trace printed machine 0 halt) := by
  rw [evaluateFrom]
  rcases stepped : machine.step with ⟨next, _ | _ | reason⟩ <;>
    cases trace <;>
    simp [stoppedEvaluation, haltedEvaluation, haltedRun, Halt.isAccepted, stepsOf, printRow,
      shownRows, traceRows, stepTimes, stepped]

/-- An end after one more round is an end of what is left after the first round. -/
theorem ending_succ_iff {printed : List String} {evaluation : Evaluation} :
    Ending trace limit printed machine (count + 1) evaluation ↔
      Ending trace limit (printRow trace machine.step.1 printed) machine.step.1 count evaluation := by
  constructor
  · intro ending
    cases ending with
    | stopped spent =>
        rw [stoppedEvaluation_succ]
        exact .stopped spent
    | halted allowed halts =>
        rw [haltedEvaluation_succ]
        exact .halted allowed halts
  · intro ending
    cases ending with
    | stopped spent =>
        rw [← stoppedEvaluation_succ]
        exact .stopped spent
    | halted allowed halts =>
        rw [← haltedEvaluation_succ]
        exact .halted allowed halts

/-- The loop ends in its first round or goes on after it. -/
theorem evaluateFrom_succ_eq_some_iff {fuel : Nat} {printed : List String} {evaluation : Evaluation} :
    evaluateFrom trace limit (fuel + 1) machine printed = some evaluation ↔
      Ending trace limit printed machine 0 evaluation ∨
        (exhausted limit machine = false ∧ machine.step.2 = .advanced) ∧
          evaluateFrom trace limit fuel machine.step.1 (printRow trace machine.step.1 printed) =
            some evaluation := by
  rw [evaluateFrom_succ]
  constructor
  · intro found
    split at found
    · rename_i spent
      cases found
      exact Or.inl (.stopped spent)
    · rename_i allowed
      split at found
      · rename_i stepped
        exact Or.inr ⟨⟨Bool.eq_false_iff.2 allowed, stepped⟩, found⟩
      · rename_i halt stepped
        cases found
        exact Or.inl (.halted (Bool.eq_false_iff.2 allowed) stepped)
  · rintro (ending | ⟨⟨allowed, stepped⟩, found⟩)
    · cases ending with
      | stopped spent => exact if_pos spent
      | halted allowed halts =>
          have allowed : exhausted limit machine = false := allowed
          have halts : machine.step.2 = .halted _ := halts
          simp [allowed, halts]
    · simpa [allowed, stepped] using found

/-- The loop has an answer exactly if it comes to an end, and then it is that of the end. -/
theorem evaluateFrom_eq_some_iff {fuel : Nat} {printed : List String} {evaluation : Evaluation} :
    evaluateFrom trace limit fuel machine printed = some evaluation ↔
      ∃ count < fuel, GoesOn limit machine count ∧
        Ending trace limit printed machine count evaluation := by
  induction fuel generalizing machine printed with
  | zero => simp [evaluateFrom]
  | succ fuel ih =>
      rw [evaluateFrom_succ_eq_some_iff, ih]
      constructor
      · rintro (ending | ⟨first, count, below, goesOn, ending⟩)
        · exact ⟨0, Nat.succ_pos fuel, goesOn_zero limit machine, ending⟩
        · exact ⟨count + 1, Nat.succ_lt_succ below, goesOn_succ_iff.2 ⟨first, goesOn⟩,
            ending_succ_iff.2 ending⟩
      · rintro ⟨count, below, goesOn, ending⟩
        cases count with
        | zero => exact Or.inl ending
        | succ count =>
            obtain ⟨first, goesOn⟩ := goesOn_succ_iff.1 goesOn
            exact Or.inr ⟨first, count, Nat.lt_of_succ_lt_succ below, goesOn,
              ending_succ_iff.1 ending⟩

/-! ### Fresh machines -/

theorem exhausted_some_iff {bound : Nat} :
    exhausted (some bound) machine = true ↔ bound ≤ machine.stepCount := by
  simp [exhausted]

/-- Without a limit the loop answers as a run does: exactly if the machine halts. -/
theorem evaluateFrom_none_eq_some_iff {fuel : Nat} {printed : List String} {evaluation : Evaluation} :
    evaluateFrom trace none fuel machine printed = some evaluation ↔
      ∃ count < fuel, ∃ halt, machine.HaltsAfter count halt ∧
        evaluation = haltedEvaluation trace printed machine count halt := by
  rw [evaluateFrom_eq_some_iff]
  constructor
  · rintro ⟨count, below, goesOn, ending⟩
    cases ending with
    | stopped spent => cases spent
    | halted _ halts =>
        exact ⟨count, below, _, ⟨fun earlier before => (goesOn earlier before).2, halts⟩, rfl⟩
  · rintro ⟨count, below, halt, halts, rfl⟩
    exact ⟨count, below, fun earlier before => ⟨rfl, halts.advances earlier before⟩,
      .halted rfl halts.halts⟩

/-- With a limit the loop of a machine that has taken no rule ends with a halt that comes before the
    step of that number, or else when that many rules have been taken. -/
theorem evaluateFrom_some_eq_some_iff {fuel bound : Nat} {printed : List String}
    {evaluation : Evaluation} (unused : machine.stepCount = 0) :
    evaluateFrom trace (some bound) fuel machine printed = some evaluation ↔
      (∃ count < fuel, count < bound ∧ ∃ halt, machine.HaltsAfter count halt ∧
        evaluation = haltedEvaluation trace printed machine count halt) ∨
      bound < fuel ∧ machine.Advances bound ∧
        evaluation = stoppedEvaluation trace printed machine bound := by
  have counted : ∀ {count}, machine.Advances count → (stepTimes count machine).stepCount = count := by
    intro count advances
    rw [advances.stepCount, unused, Nat.zero_add]
  have allowed : ∀ {count}, machine.Advances count →
      (exhausted (some bound) (stepTimes count machine) = false ↔ count < bound) := by
    intro count advances
    rw [← Bool.not_eq_true, exhausted_some_iff, counted advances, Nat.not_le]
  rw [evaluateFrom_eq_some_iff]
  constructor
  · rintro ⟨count, below, goesOn, ending⟩
    have advances : machine.Advances count := fun earlier before => (goesOn earlier before).2
    cases ending with
    | stopped spent =>
        -- No rule too many was taken: the round before this one was still allowed.
        have within : count ≤ bound := by
          refine Nat.le_of_not_lt fun more => Nat.lt_irrefl bound ?_
          exact (allowed (advances.mono (Nat.le_of_lt more))).1 (goesOn bound more).1
        have enough : bound ≤ count := by
          rw [exhausted_some_iff, counted advances] at spent
          exact spent
        obtain rfl := Nat.le_antisymm within enough
        exact Or.inr ⟨below, advances, rfl⟩
    | halted another halts =>
        exact Or.inl ⟨count, below, (allowed advances).1 another, _, ⟨advances, halts⟩, rfl⟩
  · rintro (⟨count, below, within, halt, halts, rfl⟩ | ⟨below, advances, rfl⟩)
    · have advances : machine.Advances count := halts.advances
      refine ⟨count, below, fun earlier before => ⟨?_, halts.advances earlier before⟩,
        .halted ((allowed advances).2 within) halts.halts⟩
      exact (allowed (advances.mono (Nat.le_of_lt before))).2 (Nat.lt_trans before within)
    · refine ⟨bound, below, fun earlier before => ⟨?_, advances earlier before⟩, .stopped ?_⟩
      · exact (allowed (advances.mono (Nat.le_of_lt before))).2 before
      · exact exhausted_some_iff.2 (Nat.le_of_eq (counted advances).symm)

/-! ### Starts -/

section Start

variable {next : Machine} {fuel : Nat} {input : List Char}

/-- What an evaluation comes to if the input could not be loaded: the answer of the start is the answer,
    and a trace has no rows. -/
structure Unloaded (trace : Bool) (machine : Machine) (input : List Char) (evaluation : Evaluation) :
    Prop where
  printed_eq : evaluation.printed = openingLines trace
  final_eq : evaluation.final = (machine.start input).1
  of_error : ∀ error, (machine.start input).2 = .error error → evaluation.result = .error error
  of_halted : ∀ halt, (machine.start input).2 = .ok (.halted halt) →
    evaluation.result = .ok (.halted halt)

/-- Neither the limit nor the fuel matters then. -/
theorem exists_unloaded (notLoaded : (machine.start input).2 ≠ .ok .advanced) (trace : Bool) :
    ∃ evaluation, Unloaded trace machine input evaluation ∧
      ∀ fuel limit, evaluate trace fuel limit machine input = some evaluation := by
  rcases started : machine.start input with ⟨next, error | _ | halt⟩
  · refine ⟨⟨openingLines trace, next, .error error⟩, ⟨rfl, by rw [started], ?_, ?_⟩, ?_⟩ <;>
      simp [started, evaluate]
  · rw [started] at notLoaded
    exact absurd rfl notLoaded
  · refine ⟨⟨openingLines trace, next, .ok (.halted halt)⟩, ⟨rfl, by rw [started], ?_, ?_⟩, ?_⟩ <;>
      simp [started, evaluate]

theorem evaluate_of_advanced (started : machine.start input = (next, .ok .advanced)) :
    evaluate trace fuel limit machine input =
      evaluateFrom trace limit fuel next (printRow trace next (openingLines trace)) := by
  rw [evaluate, started]

/-- With a limit, the evaluation of an input that has been loaded into a machine that has taken no rule
    ends with a halt that comes before the step of the limit, or else after as many rules. -/
theorem evaluate_some_eq_some_iff {bound : Nat} {evaluation : Evaluation}
    (unused : machine.stepCount = 0) (started : machine.start input = (next, .ok .advanced)) :
    evaluate trace fuel (some bound) machine input = some evaluation ↔
      (∃ count < fuel, count < bound ∧ ∃ halt, next.HaltsAfter count halt ∧
        evaluation =
          haltedEvaluation trace (printRow trace next (openingLines trace)) next count halt) ∨
      bound < fuel ∧ next.Advances bound ∧
        evaluation = stoppedEvaluation trace (printRow trace next (openingLines trace)) next bound := by
  rw [evaluate_of_advanced started, evaluateFrom_some_eq_some_iff (stepCount_of_started unused started)]

end Start

/-! ### Evaluations and runs -/

/-- An answer of an evaluation tells what a run has answered, and how the machine has halted. -/
inductive Tells (final : Machine) : Except Error Bool → Except Error Outcome → Prop where
  | error (error : Error) : Tells final (.error error) (.error error)
  | halted {halt : Halt} (halted : final.halt? = some halt) :
      Tells final (.ok halt.isAccepted) (.ok (.halted halt))

/-- An evaluation leaves the machine as a run does, tells what the run answers, and a trace has a row for
    everything that is seen of the run. -/
structure Agrees (trace : Bool) (run : Run) (evaluation : Evaluation) : Prop where
  final_eq : evaluation.final = run.final
  tells : Tells run.final run.result evaluation.result
  printed_eq : evaluation.printed = openingLines trace ++ shownRows trace run.seen

theorem reverse_openingLines (trace : Bool) : (openingLines trace).reverse = openingLines trace := by
  cases trace <;> rfl

/-- A halted loop agrees with the run of that halt. -/
theorem agrees_haltedEvaluation {next : Machine} {halt : Halt} (halts : next.HaltsAfter count halt) :
    Agrees trace
      { next.haltedRun count halt with seen := next :: (next.haltedRun count halt).seen }
      (haltedEvaluation trace (printRow trace next (openingLines trace)) next count halt) where
  final_eq := rfl
  tells := by
    have outcome := (stepTimes count next).step_outcome
    rw [halts.halts, ← stepTimes_succ] at outcome
    refine .halted ?_
    show (stepTimes (count + 1) next).halt? = some halt
    rw [halt?, outcome.status_eq]
  printed_eq := by
    rw [haltedEvaluation, reverse_printRow_append, reverse_openingLines]

/-- Without a limit an evaluation is a run: it comes to an end exactly if the run does, and agrees with
    it. -/
theorem evaluate_none_agrees (trace : Bool) (fuel : Nat) (machine : Machine) (input : List Char) :
    Option.Rel (Agrees trace) (machine.run fuel input) (evaluate trace fuel none machine input) := by
  rcases started : machine.start input with ⟨next, error | _ | halt⟩
  · rw [Machine.run, evaluate, started]
    exact .some ⟨rfl, .error error, by simp⟩
  · rw [evaluate_of_advanced started]
    cases found : machine.run fuel input with
    | some run =>
        obtain ⟨count, below, halt, halts, rfl⟩ := (run_eq_some_iff started).1 found
        rw [evaluateFrom_none_eq_some_iff.2 ⟨count, below, halt, halts, rfl⟩]
        exact .some (agrees_haltedEvaluation halts)
    | none =>
        have endless : evaluateFrom trace none fuel next
            (printRow trace next (openingLines trace)) = none := by
          refine Option.eq_none_iff_forall_ne_some.2 fun evaluation answered => ?_
          obtain ⟨count, below, halt, halts, -⟩ := evaluateFrom_none_eq_some_iff.1 answered
          rw [(run_eq_some_iff started).2 ⟨count, below, halt, halts, rfl⟩] at found
          cases found
        rw [endless]
        exact .none
  · have halted := machine.start_halt? input
    rw [started] at halted
    rw [Machine.run, evaluate, started]
    exact .some ⟨rfl, .halted halted, by simp⟩

end Multitape.CommandLine
