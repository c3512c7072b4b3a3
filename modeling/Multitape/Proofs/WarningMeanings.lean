/-
Module: Multitape.Proofs.WarningMeanings
Purpose: What a warning about a program says of every machine of it. The warnings are read off the table;
  `Machine.Warned` is what they mean for a machine, and it holds whatever was done to the machine.
Main exports: Machine.Arrived, arrived_of_reachable, accepting_of_accepted, accepted_of_run,
  Machine.StuckNext, Machine.Warned, warned_of_reachable
-/
import Multitape.Proofs.Decision
import Multitape.Proofs.HaltCertificate
import Multitape.Proofs.Warnings

namespace Multitape

namespace Machine

variable {program : Program} {machine : Machine} {input : List Char}

/-! ### Where a machine can be -/

/-- A machine is in a state that rules lead to from the initial one. -/
structure Arrived (program : Program) (machine : Machine) : Prop where
  program_eq : machine.program = program
  reached : program.Reaches machine.current

/-- The rule that a machine takes is one of its state, so its target can be reached as well. -/
theorem Arrived.target (arrived : machine.Arrived program) {transition : Transition}
    (rule : machine.nextRule? = some transition) : program.Reaches transition.target := by
  have mem : transition ∈ (machine.program.stateAt machine.current).transitions :=
    List.mem_of_find?_eq_some rule
  rw [arrived.program_eq] at mem
  exact arrived.reached.tail (List.mem_map_of_mem mem)

theorem StepOutcome.arrived {next : Machine} {result : Step}
    (outcome : StepOutcome machine next result) (arrived : machine.Arrived program) :
    next.Arrived program := by
  cases outcome with
  | resting halted => exact arrived
  | stuck live noRule => exact ⟨arrived.program_eq, arrived.reached⟩
  | accepting live rule accepts => exact ⟨arrived.program_eq, arrived.target rule⟩
  | advancing live rule refuses => exact ⟨arrived.program_eq, arrived.target rule⟩

theorem StartOutcome.arrived {next : Machine} {result : Except Error Step}
    (outcome : StartOutcome machine input next result) (arrived : machine.Arrived program) :
    next.Arrived program := by
  cases outcome with
  | foreign found => exact ⟨arrived.program_eq, arrived.reached⟩
  | refused known seeded => exact ⟨arrived.program_eq, arrived.reached⟩
  | loaded known seeded => exact ⟨arrived.program_eq, arrived.reached⟩

/-- Every machine that has come of a program is in a state that its rules lead to. -/
theorem arrived_of_reachable (reachable : Reachable program machine) : machine.Arrived program := by
  refine reachable.induction ⟨rfl, .refl⟩ ?_ ?_ ?_
  · intro machine input arrived
    exact (machine.start_outcome input).arrived arrived
  · intro machine arrived
    exact machine.step_outcome.arrived arrived
  · intro machine arrived
    refine ⟨arrived.program_eq, ?_⟩
    rw [Machine.reset, arrived.program_eq]
    exact .refl

/-- What has come of a program and is used once more has come of it. -/
theorem Reachable.perform (reachable : Reachable program machine) (operation : Operation) :
    Reachable program (machine.perform operation) := by
  obtain ⟨operations, rfl⟩ := reachable
  exact ⟨operations ++ [operation], (performAll_append _ operations [operation]).symm⟩

/-! ### Acceptance -/

/-- A machine that has accepted is in an accepting state of its program. -/
theorem accepting_of_accepted (wellFormed : program.WellFormed)
    (reachable : Reachable program machine) (accepted : machine.status = .halted .accepted) :
    program.acceptingStates ≠ [] := by
  have sound : machine.Sound program := sound_of_reachable wellFormed reachable
  have certified : machine.Certified program := certified_of_reachable reachable
  have accepting : (program.stateAt machine.current).accepting = true :=
    certified.halted .accepted accepted
  apply List.ne_nil_of_mem
  exact List.mem_filter.2 ⟨Program.stateAt_mem sound.current_lt, accepting⟩

/-- A run that accepts leaves the machine accepted. -/
theorem accepted_of_run {limit : Nat} {run : Run} (found : machine.run limit input = some run)
    (result : run.result = .ok true) : run.final.status = .halted .accepted := by
  rcases started : machine.start input with ⟨next, error | _ | halt⟩
  · rw [Machine.run, started] at found
    cases found
    cases result
  · obtain ⟨count, -, halt, halts, rfl⟩ := (run_eq_some_iff started).1 found
    have answer : halt.isAccepted = true := Except.ok.inj result
    cases halt with
    | accepted => exact (halts.last_step (unhalted_of_started started)).1
    | rejected reason => cases answer
  · -- A start only halts the machine to reject the input.
    obtain ⟨symbol, rfl⟩ := foreign_of_start_halted (congrArg Prod.snd started)
    rw [Machine.run, started] at found
    cases found
    cases result

/-! ### Inputs -/

/-- An input that has a symbol outside an alphabet has a first one. -/
theorem exists_first_foreign {alphabet : Alphabet} (foreign : ∃ symbol ∈ input, symbol ∉ alphabet) :
    ∃ before symbol after, input = before ++ symbol :: after ∧
      (∀ earlier ∈ before, earlier ∈ alphabet) ∧ symbol ∉ alphabet ∧
      (input.dropWhile alphabet.contains).head? = some symbol := by
  obtain ⟨other, mem, noMember⟩ := foreign
  have stops : input.dropWhile alphabet.contains ≠ [] := by
    intro none
    have contained := List.dropWhile_eq_nil_iff.1 none other mem
    exact noMember (Alphabet.contains_iff.1 contained)
  obtain ⟨symbol, after, rest⟩ := List.exists_cons_of_ne_nil stops
  refine ⟨input.takeWhile alphabet.contains, symbol, after, ?_, ?_, ?_, ?_⟩
  · rw [← rest, List.takeWhile_append_dropWhile]
  · intro earlier earlierMem
    exact Alphabet.contains_iff.1 (List.mem_takeWhile_imp earlierMem)
  · have refused := List.head?_dropWhile_not alphabet.contains input
    rw [← Alphabet.contains_iff, Bool.not_eq_true]
    simpa [rest] using refused
  · rw [rest]
    rfl

/-! ### What warnings mean -/

/-- The next step rejects because no rule applies, and takes none. The tapes are read only. -/
structure StuckNext (machine : Machine) : Prop where
  answer : machine.step.2 =
    .halted (.rejected (.stuck machine.currentState.name machine.symbols))
  status : machine.step.1.status =
    .halted (.rejected (.stuck machine.currentState.name machine.symbols))
  tapes_eq : machine.step.1.tapes = machine.readTapes.tapes
  current_eq : machine.step.1.current = machine.current
  stepCount_eq : machine.step.1.stepCount = machine.stepCount
  lastTransition_eq : machine.step.1.lastTransition = machine.lastTransition

/-- A machine that has not halted, in a state without rules, is stuck. -/
theorem stuckNext_of_noRules (live : machine.halt? = none)
    (noRules : machine.currentState.transitions = []) : machine.StuckNext := by
  have noRule : machine.nextRule? = none := by
    rw [nextRule?, State.ruleFor?, noRules]
    rfl
  have stepped := (StepOutcome.stuck live noRule).step_eq
  constructor <;> rw [stepped] <;> rfl

/-- What the warnings about its program mean for a machine. -/
structure Warned (program : Program) (machine : Machine) : Prop where
  /-- Without accepting states the machine has not accepted, and no run of it will. -/
  never_accepts : Warning.noAcceptingStates ∈ program.warnings →
    machine.status ≠ .halted .accepted ∧
      ∀ limit input run, machine.run limit input = some run → run.result ≠ .ok true
  /-- The machine is in no state that is told to be unreachable. -/
  never_unreachable : ∀ names, Warning.unreachableStates names ∈ program.warnings →
    machine.currentState.name ∉ names
  /-- In a state that is told to be a dead end, the next step rejects. -/
  dead_end : ∀ names, Warning.deadEndStates names ∈ program.warnings →
    machine.currentState.name ∈ names → machine.halt? = none → machine.StuckNext
  /-- An input with a symbol that is told to be foreign is refused at its first symbol that no tape
      takes. -/
  input_refused : ∀ symbols, Warning.foreignInputSymbols symbols ∈ program.warnings →
    ∀ input, (∀ symbol ∈ input, symbol ∈ program.inputAlphabet ∨ symbol = wildcard) →
      (∃ symbol ∈ input, symbol ∈ symbols) →
        ∃ before symbol after, input = before ++ symbol :: after ∧
          (∀ earlier ∈ before, earlier ∈ program.tapeAlphabet) ∧ symbol ∉ program.tapeAlphabet ∧
          (machine.start input).2 = .error (.foreignSymbol symbol)
  /-- If no symbol is told to be foreign, every input over the input alphabet is loaded. -/
  input_taken : (∀ symbols, Warning.foreignInputSymbols symbols ∉ program.warnings) →
    ∀ input, (∀ symbol ∈ input, symbol ∈ program.inputAlphabet) →
      (machine.start input).2 = .ok .advanced

/-- A warning means on every run what it says. Whatever was done to the machine of a built program, the
    warnings about the program are heeded. -/
theorem warned_of_reachable {declarations : Declarations} {program : Program} {machine : Machine}
    (built : declarations.build = .ok program) (reachable : Reachable program machine) :
    machine.Warned program := by
  obtain ⟨consistent, rfl⟩ := Declarations.build_eq_ok_iff.1 built
  have wellFormed := consistent.wellFormed
  have sound := sound_of_reachable wellFormed reachable
  have arrived := arrived_of_reachable reachable
  have here : machine.currentState = declarations.program.stateAt machine.current := by
    rw [currentState, sound.program_eq]
  constructor
  case never_accepts =>
    intro given
    have none := Program.noAcceptingStates_mem_warnings_iff.1 given
    refine ⟨fun accepted => accepting_of_accepted wellFormed reachable accepted none, ?_⟩
    intro limit input run found result
    have final : Reachable declarations.program run.final := by
      have performed := reachable.perform (.run limit input)
      rw [perform, found] at performed
      exact performed
    exact accepting_of_accepted wellFormed final (accepted_of_run found result) none
  case never_unreachable =>
    intro names given mem
    obtain ⟨-, rfl⟩ := Program.unreachableStates_mem_warnings_iff.1 given
    rw [mem_sortNames, Declarations.unreachableNames_program consistent, here] at mem
    have unreachable := of_decide_eq_true (List.mem_filter.1 mem).2
    have bound : machine.current < declarations.states.length := by
      simpa using sound.current_lt
    rw [Declarations.place_name_stateAt consistent bound] at unreachable
    exact unreachable (Program.mem_reachable_iff.2 arrived.reached)
  case dead_end =>
    intro names given mem live
    obtain ⟨-, rfl⟩ := Program.deadEndStates_mem_warnings_iff.1 given
    obtain ⟨state, stateMem, -, noRules, sameName⟩ :=
      Program.mem_deadEndNames_iff.1 (mem_sortNames.1 mem)
    have currentMem : machine.currentState ∈ declarations.program.states := by
      rw [here]
      exact Program.stateAt_mem sound.current_lt
    obtain rfl := Declarations.state_eq_of_name_eq consistent stateMem currentMem sameName
    exact stuckNext_of_noRules live noRules
  case input_refused =>
    intro symbols given input known listed
    obtain ⟨-, rfl⟩ := Program.foreignInputSymbols_mem_warnings_iff.1 given
    obtain ⟨other, mem, foreign⟩ := listed
    obtain ⟨before, symbol, after, split, fits, refused, first⟩ := exists_first_foreign
      ⟨other, mem, (Program.mem_foreignInputSymbols_iff.1 foreign).2⟩
    refine ⟨before, symbol, after, split, fits, refused, ?_⟩
    rw [sound.start_answer wellFormed (Program.foreignInput?_eq_none_iff.2 known), first]
  case input_taken =>
    intro none input known
    have fits : ∀ symbol ∈ input, declarations.program.tapeAlphabet.contains symbol = true := by
      intro symbol mem
      exact Alphabet.contains_iff.2 (Program.mem_tapeAlphabet_of_unwarned none (known symbol mem))
    rw [sound.start_answer wellFormed (foreignInput?_eq_none known),
      List.dropWhile_eq_nil_iff.2 fits]
    rfl

end Machine

/-- Declarations of a machine that deserves every warning: no state accepts, nothing leads to one state,
    another has no rules, and an input symbol is no tape symbol. -/
def Declarations.pitfalls : Declarations where
  states := ["gate", "pit", "annex"]
  inputAlphabet := Alphabet.ofList ['0', '1', 'x']
  tapeAlphabet := Alphabet.ofList ['0', '1', '_']
  initial := some "gate"
  rules :=
    [ ⟨"gate", ['0'], "pit", ['1'], [.right]⟩,
      ⟨"gate", ['.'], "gate", ['_'], [.right]⟩,
      ⟨"annex", ['1'], "gate", ['0'], [.left]⟩ ]

namespace Machine

open Declarations (pitfalls)

/-- A history that ends in the state without rules: an input breaks off at a symbol that the tape refuses,
    another is loaded behind what was left of it, and a rule is taken. -/
def fallenHistory : List Operation := [.start ['0', 'x'], .start ['1'], .step]

/-- There the machine rejects at the next step, and refuses an input at the wildcard that comes before its
    foreign symbol. -/
theorem warned_after_fallenHistory :
    pitfalls.build = .ok pitfalls.program ∧
      Reachable pitfalls.program ((ofProgram pitfalls.program).performAll fallenHistory) ∧
      pitfalls.program.warnings =
        [.noAcceptingStates, .unreachableStates ["annex"], .deadEndStates ["pit"],
          .foreignInputSymbols ['x']] ∧
      ((ofProgram pitfalls.program).performAll fallenHistory).Warned pitfalls.program ∧
      ((ofProgram pitfalls.program).performAll fallenHistory).currentState.name = "pit" ∧
      ((ofProgram pitfalls.program).performAll fallenHistory).StuckNext ∧
      ∃ before symbol after, ['1', '.', 'x'] = before ++ symbol :: after ∧
        (∀ earlier ∈ before, earlier ∈ pitfalls.program.tapeAlphabet) ∧
        symbol ∉ pitfalls.program.tapeAlphabet ∧
        (((ofProgram pitfalls.program).performAll fallenHistory).start ['1', '.', 'x']).2 =
          .error (.foreignSymbol symbol) := by
  have built : pitfalls.build = .ok pitfalls.program := rfl
  have reachable : Reachable pitfalls.program
      ((ofProgram pitfalls.program).performAll fallenHistory) := ⟨fallenHistory, rfl⟩
  have warnings : pitfalls.program.warnings =
      [.noAcceptingStates, .unreachableStates ["annex"], .deadEndStates ["pit"],
        .foreignInputSymbols ['x']] := by
    cbv
  have warned := warned_of_reachable built reachable
  have inPit : ((ofProgram pitfalls.program).performAll fallenHistory).currentState.name = "pit" :=
    rfl
  have known : ∀ symbol ∈ ['1', '.', 'x'],
      symbol ∈ pitfalls.program.inputAlphabet ∨ symbol = wildcard := by
    simp [pitfalls, Declarations.program, Declarations.assemble, wildcard]
  refine ⟨built, reachable, warnings, warned, inPit, ?_, ?_⟩
  · apply warned.dead_end ["pit"] (by simp [warnings]) ?_ rfl
    simp [inPit]
  · exact warned.input_refused ['x'] (by simp [warnings]) _ known ⟨'x', by simp⟩

end Machine

end Multitape
