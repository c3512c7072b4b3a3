/-
Module: Multitape.Proofs.MachineHistory
Purpose: What one step can do, what a start can do, what a run is in terms of steps, and induction over
  everything that can be done to a machine. Later modules take a step apart by `StepOutcome` and a start
  by `StartOutcome`, and never unfold them.
Main exports: Machine.nextRule?, Machine.StepOutcome, step_outcome, Machine.StartOutcome, start_outcome,
  Machine.HaltsAfter, runToHalt_eq_some_iff, exists_run_final, haltsWithin_or_advances,
  Machine.HaltsAfter.last_step, Machine.Reachable.induction
-/
import Multitape.Machine.History
import Multitape.Proofs.TapeView

namespace Multitape.Machine

/-! ### One step -/

/-- The rule that a machine takes next, if one applies. -/
def nextRule? (machine : Machine) : Option Transition :=
  machine.currentState.ruleFor? machine.symbols

/-- How a machine is halted that finds no rule. -/
def stuckHalt (machine : Machine) : Halt :=
  .rejected (.stuck machine.currentState.name machine.symbols)

@[simp] theorem readTapes_symbols (machine : Machine) :
    machine.readTapes.symbols = machine.symbols := by
  simp [readTapes, symbols]

@[simp] theorem readTapes_currentState (machine : Machine) :
    machine.readTapes.currentState = machine.currentState := rfl

theorem halt?_eq_none_iff {machine : Machine} :
    machine.halt? = none ↔ ∀ halt, machine.status ≠ .halted halt := by
  unfold halt?
  cases machine.status <;> simp

/-- Everything that a step can do, with the conditions under which it does it. -/
inductive StepOutcome (machine : Machine) : Machine → Step → Prop where
  /-- A halted machine stays as it is. -/
  | resting {halt : Halt} (halted : machine.status = .halted halt) :
      StepOutcome machine machine (.halted halt)
  /-- No rule applies. The tapes have been read. -/
  | stuck (live : machine.halt? = none) (noRule : machine.nextRule? = none) :
      StepOutcome machine (machine.readTapes.haltWith machine.stuckHalt) (.halted machine.stuckHalt)
  /-- A rule leads to an accepting state. -/
  | accepting {transition : Transition} (live : machine.halt? = none)
      (rule : machine.nextRule? = some transition)
      (accepts : (machine.program.stateAt transition.target).accepting = true) :
      StepOutcome machine ((machine.readTapes.apply transition).haltWith .accepted)
        (.halted .accepted)
  /-- A rule leads to a state that does not accept. -/
  | advancing {transition : Transition} (live : machine.halt? = none)
      (rule : machine.nextRule? = some transition)
      (refuses : (machine.program.stateAt transition.target).accepting = false) :
      StepOutcome machine { machine.readTapes.apply transition with status := .running } .advanced

/-- A step does one of these things. -/
theorem step_outcome (machine : Machine) : StepOutcome machine machine.step.1 machine.step.2 := by
  unfold step
  split
  · rename_i halt halted
    exact .resting halted
  · rename_i live
    have live : machine.halt? = none := halt?_eq_none_iff.2 fun halt halted => live halt halted
    simp only [readTapes_symbols, readTapes_currentState]
    split
    · rename_i noRule
      exact .stuck live noRule
    · rename_i transition rule
      split
      · rename_i accepts
        exact .accepting live rule accepts
      · rename_i refuses
        exact .advancing live rule (Bool.eq_false_iff.2 refuses)

/-- A step that halts leaves a machine that has halted so. -/
theorem StepOutcome.status_eq {machine next : Machine} {halt : Halt}
    (outcome : StepOutcome machine next (.halted halt)) : next.status = .halted halt := by
  cases outcome with
  | resting halted => exact halted
  | stuck => rfl
  | accepting => rfl

theorem step_of_halted {machine : Machine} {halt : Halt} (halted : machine.status = .halted halt) :
    machine.step = (machine, .halted halt) := by
  simp [step, halted]

/-- A machine that has not halted steps by its next rule. -/
theorem step_of_live {machine : Machine} (live : machine.halt? = none) :
    machine.step =
      match machine.nextRule? with
      | none => (machine.readTapes.haltWith machine.stuckHalt, .halted machine.stuckHalt)
      | some transition =>
          if (machine.program.stateAt transition.target).accepting then
            ((machine.readTapes.apply transition).haltWith .accepted, .halted .accepted)
          else ({ machine.readTapes.apply transition with status := .running }, .advanced) := by
  unfold step
  split
  · rename_i halt halted
    exact absurd halted (halt?_eq_none_iff.1 live halt)
  · simp only [readTapes_symbols, readTapes_currentState]
    rfl

/-- What a step can do under its conditions is what it does. -/
theorem StepOutcome.step_eq {machine next : Machine} {result : Step}
    (outcome : StepOutcome machine next result) : machine.step = (next, result) := by
  cases outcome with
  | resting halted => exact step_of_halted halted
  | stuck live noRule => rw [step_of_live live, noRule]
  | accepting live rule accepts =>
      rw [step_of_live live, rule]
      exact if_pos accepts
  | advancing live rule refuses =>
      rw [step_of_live live, rule]
      exact if_neg (Bool.eq_false_iff.1 refuses)

/-! ### One start -/

/-- Everything that a start can do, with the conditions under which it does it. -/
inductive StartOutcome (machine : Machine) (input : List Char) :
    Machine → Except Error Step → Prop where
  /-- The input has a symbol outside the input alphabet. -/
  | foreign {symbol : Char} (found : machine.program.foreignInput? input = some symbol) :
      StartOutcome machine input (machine.haltWith (.rejected (.foreignInput symbol)))
        (.ok (.halted (.rejected (.foreignInput symbol))))
  /-- The first tape refuses a symbol. Those before it have been put on it. -/
  | refused {tapes : List Tape} {symbol : Char}
      (known : machine.program.foreignInput? input = none)
      (seeded : seed machine.tapes input = (tapes, some symbol)) :
      StartOutcome machine input { machine with tapes := tapes, status := .idle }
        (.error (.foreignSymbol symbol))
  /-- The input is loaded. -/
  | loaded {tapes : List Tape} (known : machine.program.foreignInput? input = none)
      (seeded : seed machine.tapes input = (tapes, none)) :
      StartOutcome machine input { machine with tapes := tapes, status := .running } (.ok .advanced)

/-- A start does one of these things. -/
theorem start_outcome (machine : Machine) (input : List Char) :
    StartOutcome machine input (machine.start input).1 (machine.start input).2 := by
  unfold start
  split
  · rename_i symbol found
    exact .foreign found
  · rename_i known
    split
    · rename_i tapes symbol seeded
      exact .refused known seeded
    · rename_i tapes seeded
      exact .loaded known seeded

/-- What a start can do under its conditions is what it does. -/
theorem StartOutcome.start_eq {machine next : Machine} {input : List Char}
    {result : Except Error Step} (outcome : StartOutcome machine input next result) :
    machine.start input = (next, result) := by
  cases outcome with
  | foreign found => simp only [start, found]
  | refused known seeded => simp only [start, known, seeded]
  | loaded known seeded => simp only [start, known, seeded]

/-- A start takes no rule. -/
theorem start_stepCount (machine : Machine) (input : List Char) :
    (machine.start input).1.stepCount = machine.stepCount := by
  have outcome := machine.start_outcome input
  generalize (machine.start input).1 = next at *
  generalize (machine.start input).2 = result at *
  cases outcome <;> rfl

/-- A start leaves the machine halted exactly if it answers so. -/
theorem start_halt? (machine : Machine) (input : List Char) :
    (machine.start input).1.halt? =
      match (machine.start input).2 with
      | .ok (.halted halt) => some halt
      | _ => none := by
  have outcome := machine.start_outcome input
  generalize (machine.start input).1 = next at *
  generalize (machine.start input).2 = result at *
  cases outcome <;> rfl

/-- A start halts a machine only because of a foreign symbol. -/
theorem foreign_of_start_halted {machine : Machine} {input : List Char} {halt : Halt}
    (halted : (machine.start input).2 = .ok (.halted halt)) :
    ∃ symbol, halt = .rejected (.foreignInput symbol) := by
  have outcome := machine.start_outcome input
  rw [halted] at outcome
  generalize (machine.start input).1 = next at outcome
  cases outcome with
  | foreign => exact ⟨_, rfl⟩

/-- A machine on which an input has been loaded has not halted. -/
theorem unhalted_of_started {machine next : Machine} {input : List Char}
    (started : machine.start input = (next, .ok .advanced)) : next.halt? = none := by
  have halted := machine.start_halt? input
  rw [started] at halted
  exact halted

/-- A machine that has taken no rule has taken none once an input is loaded. -/
theorem stepCount_of_started {machine next : Machine} {input : List Char} {result : Except Error Step}
    (unused : machine.stepCount = 0) (started : machine.start input = (next, result)) :
    next.stepCount = 0 := by
  have counted := machine.start_stepCount input
  rw [started, unused] at counted
  exact counted

/-! ### Several steps -/

/-- The last of several steps can be taken apart as well as the first. -/
theorem stepTimes_succ (count : Nat) (machine : Machine) :
    stepTimes (count + 1) machine = (stepTimes count machine).step.1 := by
  induction count generalizing machine with
  | zero => rfl
  | succ count ih => exact ih machine.step.1

theorem stepTimes_add (count more : Nat) (machine : Machine) :
    stepTimes (count + more) machine = stepTimes more (stepTimes count machine) := by
  induction more with
  | zero => rfl
  | succ more ih => rw [← Nat.add_assoc, stepTimes_succ, ih, ← stepTimes_succ]

/-- A halted machine stays as it is, however often it is stepped. -/
theorem stepTimes_of_halted {machine : Machine} {halt : Halt} (halted : machine.status = .halted halt)
    (count : Nat) : stepTimes count machine = machine := by
  induction count with
  | zero => rfl
  | succ count ih => rw [stepTimes_succ, ih, step_of_halted halted]

/-- The machine advances a number of times, and the step after these halts it. -/
structure HaltsAfter (machine : Machine) (count : Nat) (halt : Halt) : Prop where
  advances : ∀ earlier < count, (stepTimes earlier machine).step.2 = .advanced
  halts : (stepTimes count machine).step.2 = .halted halt

/-- The run of a machine that halts after a number of steps. The configuration in which no rule was
    found is not seen a second time. -/
def haltedRun (machine : Machine) (count : Nat) (halt : Halt) : Run where
  seen := (List.range (if halt.isAccepted then count + 1 else count)).map fun earlier =>
    stepTimes (earlier + 1) machine
  final := stepTimes (count + 1) machine
  result := .ok halt.isAccepted

theorem haltsAfter_zero_iff {machine : Machine} {halt : Halt} :
    machine.HaltsAfter 0 halt ↔ machine.step.2 = .halted halt :=
  ⟨fun halts => halts.halts,
    fun halts => ⟨fun _ impossible => absurd impossible (Nat.not_lt_zero _), halts⟩⟩

theorem haltsAfter_succ_iff {machine : Machine} {count : Nat} {halt : Halt} :
    machine.HaltsAfter (count + 1) halt ↔
      machine.step.2 = .advanced ∧ machine.step.1.HaltsAfter count halt := by
  constructor
  · intro given
    rcases given with ⟨advances, halts⟩
    exact ⟨advances 0 (Nat.succ_pos count),
      fun earlier below => advances (earlier + 1) (Nat.succ_lt_succ below), halts⟩
  · intro given
    rcases given with ⟨first, advances, halts⟩
    refine ⟨fun earlier below => ?_, halts⟩
    cases earlier with
    | zero => exact first
    | succ earlier => exact advances earlier (Nat.lt_of_succ_lt_succ below)

theorem haltedRun_succ (machine : Machine) (count : Nat) (halt : Halt) :
    machine.haltedRun (count + 1) halt =
      { machine.step.1.haltedRun count halt with
        seen := machine.step.1 :: (machine.step.1.haltedRun count halt).seen } := by
  cases halt <;>
    simp [haltedRun, Halt.isAccepted, List.range_succ_eq_map, Function.comp_def, stepTimes]

theorem runToHalt_succ (limit : Nat) (machine : Machine) :
    runToHalt (limit + 1) machine =
      match machine.step.2 with
      | .advanced => (runToHalt limit machine.step.1).map fun run =>
          { run with seen := machine.step.1 :: run.seen }
      | .halted halt => some (machine.haltedRun 0 halt) := by
  rw [runToHalt]
  rcases stepped : machine.step with ⟨next, _ | _ | reason⟩ <;>
    simp [haltedRun, Halt.isAccepted, stepTimes, stepped]

/-- There is a run within a limit exactly if the machine halts within it, and it is the run of that
    halt. -/
theorem runToHalt_eq_some_iff {limit : Nat} {machine : Machine} {run : Run} :
    runToHalt limit machine = some run ↔
      ∃ count < limit, ∃ halt, machine.HaltsAfter count halt ∧
        run = machine.haltedRun count halt := by
  induction limit generalizing machine run with
  | zero => simp [runToHalt]
  | succ limit ih =>
      rw [runToHalt_succ]
      cases stepped : machine.step.2 with
      | halted halt =>
          simp only [Option.some.injEq]
          constructor
          · intro same
            subst same
            exact ⟨0, Nat.succ_pos limit, halt, haltsAfter_zero_iff.2 stepped, rfl⟩
          · intro given
            rcases given with ⟨count, -, other, halts, rfl⟩
            cases count with
            | zero =>
                rw [haltsAfter_zero_iff, stepped] at halts
                cases halts
                rfl
            | succ count =>
                rw [haltsAfter_succ_iff, stepped] at halts
                cases halts.1
      | advanced =>
          simp only [Option.map_eq_some_iff, ih]
          constructor
          · intro given
            rcases given with ⟨-, ⟨count, below, halt, halts, rfl⟩, rfl⟩
            exact ⟨count + 1, Nat.succ_lt_succ below, halt, haltsAfter_succ_iff.2 ⟨stepped, halts⟩,
              (haltedRun_succ machine count halt).symm⟩
          · intro given
            rcases given with ⟨count, below, halt, halts, rfl⟩
            cases count with
            | zero =>
                rw [haltsAfter_zero_iff, stepped] at halts
                cases halts
            | succ count =>
                exact ⟨_, ⟨count, Nat.lt_of_succ_lt_succ below, halt,
                  (haltsAfter_succ_iff.1 halts).2, rfl⟩, (haltedRun_succ machine count halt).symm⟩

/-- After an accepted start, a run steps until the machine halts. -/
theorem run_eq_some_iff {limit : Nat} {machine next : Machine} {input : List Char} {run : Run}
    (started : machine.start input = (next, .ok .advanced)) :
    machine.run limit input = some run ↔
      ∃ count < limit, ∃ halt, next.HaltsAfter count halt ∧
        run = { next.haltedRun count halt with
          seen := next :: (next.haltedRun count halt).seen } := by
  simp only [Machine.run, started, Option.map_eq_some_iff, runToHalt_eq_some_iff]
  constructor
  · intro given
    rcases given with ⟨-, ⟨count, below, halt, halts, rfl⟩, rfl⟩
    exact ⟨count, below, halt, halts, rfl⟩
  · intro given
    rcases given with ⟨count, below, halt, halts, rfl⟩
    exact ⟨_, ⟨count, below, halt, halts, rfl⟩, rfl⟩

/-- If no input is loaded there is nothing to run, and nothing is seen. -/
theorem exists_run_of_not_loaded {machine : Machine} {input : List Char}
    (notLoaded : (machine.start input).2 ≠ .ok .advanced) (limit : Nat) :
    ∃ run, machine.run limit input = some run ∧ run.seen = [] ∧
      run.final = (machine.start input).1 := by
  rcases started : machine.start input with ⟨next, error | _ | halt⟩
  · exact ⟨_, by rw [Machine.run, started], rfl, rfl⟩
  · rw [started] at notLoaded
    exact absurd rfl notLoaded
  · exact ⟨_, by rw [Machine.run, started], rfl, rfl⟩

/-- A run is a start and then some steps. -/
theorem exists_run_final {limit : Nat} {machine : Machine} {input : List Char} {run : Run}
    (found : machine.run limit input = some run) :
    ∃ count, run.final = stepTimes count (machine.start input).1 := by
  unfold Machine.run at found
  split at found
  · rename_i next error started
    cases found
    exact ⟨0, by rw [started]; rfl⟩
  · rename_i next halt started
    cases found
    exact ⟨0, by rw [started]; rfl⟩
  · rename_i next started
    obtain ⟨halted, runs, rfl⟩ := Option.map_eq_some_iff.1 found
    obtain ⟨count, -, halt, -, rfl⟩ := runToHalt_eq_some_iff.1 runs
    exact ⟨count + 1, by rw [started]; rfl⟩

/-! ### Counting rules -/

/-- The machine makes a number of steps and does not halt. -/
def Advances (machine : Machine) (count : Nat) : Prop :=
  ∀ earlier < count, (stepTimes earlier machine).step.2 = .advanced

theorem advances_zero (machine : Machine) : machine.Advances 0 :=
  fun earlier below => absurd below (Nat.not_lt_zero earlier)

/-- Steps that lead as far as a halt have led as far as any earlier one. -/
theorem Advances.mono {machine : Machine} {count fewer : Nat} (advances : machine.Advances count)
    (bound : fewer ≤ count) : machine.Advances fewer :=
  fun earlier below => advances earlier (Nat.lt_of_lt_of_le below bound)

/-- A machine halts within a number of steps, or it makes all of them. -/
theorem haltsWithin_or_advances (machine : Machine) (bound : Nat) :
    (∃ count < bound, ∃ halt, machine.HaltsAfter count halt) ∨ machine.Advances bound := by
  induction bound with
  | zero => exact Or.inr machine.advances_zero
  | succ bound ih =>
      rcases ih with ⟨count, below, halt, halts⟩ | advances
      · exact Or.inl ⟨count, Nat.lt_succ_of_lt below, halt, halts⟩
      · cases last : (stepTimes bound machine).step.2 with
        | halted halt => exact Or.inl ⟨bound, Nat.lt_succ_self bound, halt, advances, last⟩
        | advanced =>
            refine Or.inr fun earlier below => ?_
            rcases Nat.lt_succ_iff_lt_or_eq.1 below with below | rfl
            · exact advances earlier below
            · exact last

/-- A machine that halts after a number of steps does not make more. -/
theorem HaltsAfter.not_advances {machine : Machine} {count bound : Nat} {halt : Halt}
    (halts : machine.HaltsAfter count halt) (below : count < bound) : ¬ machine.Advances bound := by
  intro advances
  have advanced := advances count below
  rw [halts.halts] at advanced
  cases advanced

/-- A machine halts once. -/
theorem HaltsAfter.unique {machine : Machine} {count other : Nat} {halt otherHalt : Halt}
    (one : machine.HaltsAfter count halt) (two : machine.HaltsAfter other otherHalt) :
    count = other ∧ halt = otherHalt := by
  rcases Nat.lt_trichotomy count other with lower | rfl | upper
  · exact absurd two.advances (one.not_advances lower)
  · have same := one.halts.symm.trans two.halts
    exact ⟨rfl, Step.halted.inj same⟩
  · exact absurd one.advances (two.not_advances upper)

/-- A step that advances has taken one rule. -/
theorem stepCount_of_advanced {machine : Machine} (advanced : machine.step.2 = .advanced) :
    machine.step.1.stepCount = machine.stepCount + 1 := by
  have outcome := machine.step_outcome
  rw [advanced] at outcome
  generalize machine.step.1 = next at outcome ⊢
  cases outcome with
  | advancing => rfl

/-- A step that advances leaves the machine running. -/
theorem running_of_advanced {machine : Machine} (advanced : machine.step.2 = .advanced) :
    machine.step.1.status = .running := by
  have outcome := machine.step_outcome
  rw [advanced] at outcome
  generalize machine.step.1 = next at outcome ⊢
  cases outcome with
  | advancing => rfl

/-- A machine that has not halted counts the rules that it takes. -/
theorem Advances.stepCount {machine : Machine} {count : Nat} (advances : machine.Advances count) :
    (stepTimes count machine).stepCount = machine.stepCount + count := by
  induction count with
  | zero => rfl
  | succ count ih =>
      rw [stepTimes_succ, stepCount_of_advanced (advances count (Nat.lt_succ_self count)),
        ih (advances.mono (Nat.le_succ count)), Nat.add_assoc]

/-- After a step that advances, the machine has not halted. -/
theorem Advances.unhalted {machine : Machine} {count : Nat} (live : machine.halt? = none)
    (advances : machine.Advances count) : (stepTimes count machine).halt? = none := by
  cases count with
  | zero => exact live
  | succ count =>
      rw [stepTimes_succ]
      have outcome := (stepTimes count machine).step_outcome
      rw [advances count (Nat.lt_succ_self count)] at outcome
      generalize (stepTimes count machine).step.1 = next at outcome ⊢
      cases outcome with
      | advancing => rfl

/-- A machine that steps to its halt has accepted or is stuck. -/
theorem HaltsAfter.accepted_or_stuck {machine : Machine} {count : Nat} {halt : Halt}
    (live : machine.halt? = none) (halts : machine.HaltsAfter count halt) :
    halt = .accepted ∨ ∃ state symbols, halt = .rejected (.stuck state symbols) := by
  have advances : machine.Advances count := halts.advances
  have unhalted := advances.unhalted live
  have outcome := (stepTimes count machine).step_outcome
  rw [halts.halts] at outcome
  generalize (stepTimes count machine).step.1 = next at outcome
  cases outcome with
  | resting halted => exact absurd halted (halt?_eq_none_iff.1 unhalted halt)
  | stuck => exact Or.inr ⟨_, _, rfl⟩
  | accepting => exact Or.inl rfl

/-- How many rules a machine has taken that halts after a number of steps: the step that halts it takes
    one if it accepts. -/
def rulesTaken (count : Nat) (halt : Halt) : Nat :=
  if halt.isAccepted then count + 1 else count

theorem rulesTaken_le (count : Nat) (halt : Halt) : rulesTaken count halt ≤ count + 1 := by
  cases halt with
  | accepted => exact Nat.le_refl (count + 1)
  | rejected reason => exact Nat.le_succ count

theorem le_rulesTaken (count : Nat) (halt : Halt) : count ≤ rulesTaken count halt := by
  cases halt with
  | accepted => exact Nat.le_succ count
  | rejected reason => exact Nat.le_refl count

/-- The step that halts a machine leaves it halted so, and counts the rules that it took. -/
theorem HaltsAfter.last_step {machine : Machine} {count : Nat} {halt : Halt}
    (live : machine.halt? = none) (halts : machine.HaltsAfter count halt) :
    (stepTimes (count + 1) machine).status = .halted halt ∧
      (stepTimes (count + 1) machine).stepCount = machine.stepCount + rulesTaken count halt := by
  have advances : machine.Advances count := halts.advances
  have unhalted := advances.unhalted live
  have outcome := (stepTimes count machine).step_outcome
  rw [stepTimes_succ]
  rw [halts.halts] at outcome
  refine ⟨outcome.status_eq, ?_⟩
  have counted := advances.stepCount
  generalize stepTimes count machine = last at *
  generalize last.step.1 = next at *
  cases outcome with
  | resting halted => exact absurd halted (halt?_eq_none_iff.1 unhalted halt)
  | stuck => exact counted
  | accepting => exact congrArg (· + 1) counted

/-! ### Everything that can be done -/

section Induction

variable {Holds : Machine → Prop}

/-- What one step keeps, several keep. -/
theorem stepTimes_induction (step : ∀ machine, Holds machine → Holds machine.step.1) (count : Nat)
    {machine : Machine} (holds : Holds machine) : Holds (stepTimes count machine) := by
  induction count generalizing machine with
  | zero => exact holds
  | succ count ih => exact ih (step machine holds)

/-- What starts, steps and resets keep, all operations keep: a run is made of them. -/
theorem perform_induction (start : ∀ machine input, Holds machine → Holds (machine.start input).1)
    (step : ∀ machine, Holds machine → Holds machine.step.1)
    (reset : ∀ machine, Holds machine → Holds machine.reset) {machine : Machine}
    (holds : Holds machine) (operation : Operation) : Holds (machine.perform operation) := by
  cases operation with
  | start input => exact start machine input holds
  | step => exact step machine holds
  | reset => exact reset machine holds
  | run limit input =>
      cases found : machine.run limit input with
      | none => simpa [perform, found] using holds
      | some run =>
          obtain ⟨count, final⟩ := exists_run_final found
          have last : Holds run.final :=
            final ▸ stepTimes_induction step count (start machine input holds)
          simpa [perform, found] using last

/-- What holds of a fresh machine and is kept by starts, steps and resets holds of every machine
    that has come of it, whatever was done in between. -/
theorem Reachable.induction {program : Program} (fresh : Holds (ofProgram program))
    (start : ∀ machine input, Holds machine → Holds (machine.start input).1)
    (step : ∀ machine, Holds machine → Holds machine.step.1)
    (reset : ∀ machine, Holds machine → Holds machine.reset) {machine : Machine}
    (reachable : Reachable program machine) : Holds machine := by
  obtain ⟨operations, rfl⟩ := reachable
  unfold performAll
  generalize ofProgram program = machine at fresh
  induction operations generalizing machine with
  | nil => exact fresh
  | cons operation operations ih =>
      exact ih (machine.perform operation) (perform_induction start step reset fresh operation)

end Induction

end Multitape.Machine
