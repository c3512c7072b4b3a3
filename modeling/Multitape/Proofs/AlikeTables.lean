/-
Module: Multitape.Proofs.AlikeTables
Purpose: Tables that differ in their rules and yet run alike. It is enough that in every state, on all
  symbols that can stand under the heads, both take rules that do the same. The simulation relation is
  `Machine.Mirrors`: equality of machines up to the number of the last rule. One step keeps it, and so
  does every number of steps.
Main exports: Program.Alike, Machine.Mirrors, Machine.Twins, Twins.inStep, Twins.start,
  Program.RunsAlike, Alike.runsAlike, Declarations.build_withRules_runsAlike,
  Declarations.replacedNumber, build_replaced_runsAlike
-/
import Multitape.Proofs.Lockstep
import Multitape.Proofs.MachineInvariant
import Multitape.Proofs.RuleSearch

namespace Multitape

/-- Two tables have the same states up to their rules, and on as many tape symbols as there are tapes a
    state takes rules in both that do the same, or in neither. A number of the second table is translated
    to one of the first. -/
structure Program.Alike (number : Nat → Nat) (first second : Program) : Prop where
  tapeCount_eq : second.tapeCount = first.tapeCount
  inputAlphabet_eq : second.inputAlphabet = first.inputAlphabet
  tapeAlphabet_eq : second.tapeAlphabet = first.tapeAlphabet
  blank_eq : second.blank = first.blank
  initial_eq : second.initial = first.initial
  name_eq : ∀ place, (second.stateAt place).name = (first.stateAt place).name
  accepting_eq : ∀ place, (second.stateAt place).accepting = (first.stateAt place).accepting
  rules_related : ∀ place symbols, symbols.length = first.tapeCount →
    (∀ symbol ∈ symbols, symbol ∈ first.tapeAlphabet) →
      Option.Rel (Transition.SameDeed number) ((first.stateAt place).ruleFor? symbols)
        ((second.stateAt place).ruleFor? symbols)

namespace Machine

variable {number : Nat → Nat} {program other : Program} {first second : Machine}

/-- Two machines are the same but for their programs and the number of the last rule, which is
    translated. -/
structure Mirrors (number : Nat → Nat) (first second : Machine) : Prop where
  tapes_eq : second.tapes = first.tapes
  current_eq : second.current = first.current
  stepCount_eq : second.stepCount = first.stepCount
  status_eq : second.status = first.status
  lastTransition_eq : first.lastTransition = second.lastTransition.map number

/-! ### What mirrored machines share -/

namespace Mirrors

theorem symbols_eq (mirrors : first.Mirrors number second) : second.symbols = first.symbols :=
  congrArg (List.map Tape.peek) mirrors.tapes_eq

/-- Reading the tapes is seen in neither machine or in both. -/
theorem readTapes (mirrors : first.Mirrors number second) :
    first.readTapes.Mirrors number second.readTapes where
  tapes_eq := congrArg (List.map Tape.settle) mirrors.tapes_eq
  current_eq := mirrors.current_eq
  stepCount_eq := mirrors.stepCount_eq
  status_eq := mirrors.status_eq
  lastTransition_eq := mirrors.lastTransition_eq

/-- Giving both machines a status keeps them alike. -/
theorem withStatus (mirrors : first.Mirrors number second) (status : Status) :
    { first with status := status }.Mirrors number { second with status := status } where
  tapes_eq := mirrors.tapes_eq
  current_eq := mirrors.current_eq
  stepCount_eq := mirrors.stepCount_eq
  status_eq := rfl
  lastTransition_eq := mirrors.lastTransition_eq

/-- So does putting the same on their tapes. -/
theorem withTapes (mirrors : first.Mirrors number second) (tapes : List Tape) (status : Status) :
    { first with tapes := tapes, status := status }.Mirrors number
      { second with tapes := tapes, status := status } where
  tapes_eq := rfl
  current_eq := mirrors.current_eq
  stepCount_eq := mirrors.stepCount_eq
  status_eq := rfl
  lastTransition_eq := mirrors.lastTransition_eq

/-- Rules that do the same keep both machines alike. -/
theorem apply (mirrors : first.Mirrors number second) {one next : Transition}
    (same : one.SameDeed number next) :
    (first.apply one).Mirrors number (second.apply next) where
  tapes_eq := by
    simp only [Machine.apply, Transition.execute, mirrors.tapes_eq, same.write_eq, same.directions_eq]
  current_eq := same.target_eq
  stepCount_eq := congrArg (· + 1) mirrors.stepCount_eq
  status_eq := mirrors.status_eq
  lastTransition_eq := congrArg some same.id_eq

end Mirrors

/-- A machine of each of two tables, the first of which is sound, and they mirror each other. -/
structure Twins (number : Nat → Nat) (program other : Program) (first second : Machine) : Prop where
  sound : first.Sound program
  program_eq : second.program = other
  mirrors : first.Mirrors number second

/-! ### What alike tables keep -/

namespace Twins

/-- Both machines are in states of the same name. -/
theorem name_eq (alike : program.Alike number other) (twins : Twins number program other first second) :
    second.currentState.name = first.currentState.name := by
  unfold currentState
  rw [twins.program_eq, twins.sound.program_eq, twins.mirrors.current_eq]
  exact alike.name_eq first.current

/-- If they halt for want of a rule, they say the same. -/
theorem stuckHalt_eq (alike : program.Alike number other)
    (twins : Twins number program other first second) : second.stuckHalt = first.stuckHalt := by
  rw [stuckHalt, stuckHalt, twins.name_eq alike, twins.mirrors.symbols_eq]

/-- They find rules that do the same, or none. Only symbols of the tape alphabet stand under the heads,
    so it is enough that the tables are alike on these. -/
theorem nextRule?_related (alike : program.Alike number other) (wellFormed : program.WellFormed)
    (twins : Twins number program other first second) :
    Option.Rel (Transition.SameDeed number) first.nextRule? second.nextRule? := by
  have related := alike.rules_related first.current first.symbols twins.sound.length_symbols
    (twins.sound.symbols_mem wellFormed)
  unfold nextRule? currentState
  rw [twins.program_eq, twins.sound.program_eq, twins.mirrors.current_eq, twins.mirrors.symbols_eq]
  exact related

/-- A rule leads both to states of which both or neither accept. -/
theorem accepting_eq (alike : program.Alike number other)
    (twins : Twins number program other first second) {one next : Transition}
    (same : one.SameDeed number next) :
    (second.program.stateAt next.target).accepting =
      (first.program.stateAt one.target).accepting := by
  rw [twins.program_eq, twins.sound.program_eq, same.target_eq]
  exact alike.accepting_eq one.target

/-- They mirror each other while they step: one can do what the other does. -/
theorem inStep (alike : program.Alike number other) (wellFormed : program.WellFormed)
    (twins : Twins number program other first second) :
    InStep id (Twins number program other) first second where
  kept := twins
  status_eq := by
    rw [Status.retell_id]
    exact twins.mirrors.status_eq
  stuck := by
    intro _ _
    refine ⟨?_, fun status => ?_⟩
    · rw [Halt.retell_id]
      exact twins.stuckHalt_eq alike
    · rw [Status.retell_id]
      exact ⟨(twins.sound.readTapes wellFormed).withStatus status, twins.program_eq,
        twins.mirrors.readTapes.withStatus status⟩
  rules := by
    intro _
    have related := twins.nextRule?_related alike wellFormed
    generalize second.nextRule? = next? at related ⊢
    cases found : first.nextRule? with
    | none =>
        rw [found] at related
        cases related
        exact .none
    | some one =>
        have fits := twins.sound.fits_of_nextRule? wellFormed found
        rw [found] at related
        cases related with
        | some same =>
            refine .some ⟨twins.accepting_eq alike same, fun status => ?_⟩
            rw [Status.retell_id]
            exact ⟨((twins.sound.readTapes wellFormed).apply wellFormed fits).withStatus status,
              twins.program_eq, (twins.mirrors.readTapes.apply same).withStatus status⟩

/-- Both machines are loaded alike: tables that are alike have the same input alphabet, and tapes that
    are equal refuse the same symbol. -/
theorem start (alike : program.Alike number other) (wellFormed : program.WellFormed)
    (twins : Twins number program other first second) (input : List Char) :
    (second.start input).2 = (first.start input).2 ∧
      Twins number program other (first.start input).1 (second.start input).1 := by
  have foreign : second.program.foreignInput? input = first.program.foreignInput? input := by
    unfold Program.foreignInput?
    rw [twins.program_eq, twins.sound.program_eq, alike.inputAlphabet_eq]
  have sound := twins.sound.start wellFormed input
  have mirrors := twins.mirrors
  have outcome := first.start_outcome input
  generalize (first.start input).1 = next at outcome sound ⊢
  generalize (first.start input).2 = result at outcome ⊢
  cases outcome with
  | foreign found =>
      rw [(StartOutcome.foreign (foreign.trans found)).start_eq]
      exact ⟨rfl, sound, twins.program_eq, mirrors.withStatus _⟩
  | refused known seeded =>
      rw [← mirrors.tapes_eq] at seeded
      rw [(StartOutcome.refused (foreign.trans known) seeded).start_eq]
      exact ⟨rfl, sound, twins.program_eq, mirrors.withTapes _ _⟩
  | loaded known seeded =>
      rw [← mirrors.tapes_eq] at seeded
      rw [(StartOutcome.loaded (foreign.trans known) seeded).start_eq]
      exact ⟨rfl, sound, twins.program_eq, mirrors.withTapes _ _⟩

end Twins

/-- Fresh machines of alike tables mirror each other. -/
theorem twins_ofProgram (alike : program.Alike number other) (wellFormed : program.WellFormed) :
    Twins number program other (ofProgram program) (ofProgram other) where
  sound := sound_ofProgram wellFormed
  program_eq := rfl
  mirrors :=
    { tapes_eq := by
        simp only [ofProgram, alike.tapeCount_eq, alike.tapeAlphabet_eq, alike.blank_eq]
      current_eq := alike.initial_eq
      stepCount_eq := rfl
      status_eq := rfl
      lastTransition_eq := rfl }

end Machine

/-! ### Whole runs -/

/-- On every input, the machines of two tables answer the same to a start and to every step after it, and
    after any number of steps they agree in all but the number of the last rule, which is translated. -/
structure Program.RunsAlike (number : Nat → Nat) (first second : Program) : Prop where
  start_eq : ∀ input,
    ((Machine.ofProgram second).start input).2 = ((Machine.ofProgram first).start input).2
  step_eq : ∀ input count,
    (Machine.stepTimes count ((Machine.ofProgram second).start input).1).step.2 =
      (Machine.stepTimes count ((Machine.ofProgram first).start input).1).step.2
  mirrors : ∀ input count,
    (Machine.stepTimes count ((Machine.ofProgram first).start input).1).Mirrors number
      (Machine.stepTimes count ((Machine.ofProgram second).start input).1)

/-- Alike tables run alike. -/
theorem Program.Alike.runsAlike {number : Nat → Nat} {first second : Program}
    (alike : first.Alike number second) (wellFormed : first.WellFormed) :
    first.RunsAlike number second := by
  have fresh := Machine.twins_ofProgram alike wellFormed
  have along : ∀ input count,
      (Machine.stepTimes count ((Machine.ofProgram second).start input).1).step.2 =
          (Machine.stepTimes count ((Machine.ofProgram first).start input).1).step.2.retell id ∧
        Machine.Twins number first second
          (Machine.stepTimes count ((Machine.ofProgram first).start input).1)
          (Machine.stepTimes count ((Machine.ofProgram second).start input).1) := by
    intro input
    have started := (fresh.start alike wellFormed input).2
    exact Machine.kept_stepTimes (fun twins => twins.inStep alike wellFormed) started
  constructor
  · intro input
    exact (fresh.start alike wellFormed input).1
  · intro input count
    have answers := (along input count).1
    rwa [Step.retell_id] at answers
  · intro input count
    exact (along input count).2.mirrors

/-! ### Tables with other rules -/

namespace Declarations

variable {declarations : Declarations} {number : Nat → Nat} {rules : List RuleDeclaration}

/-- Tables are alike if a search of their declarations finds the same on all symbols of the tape
    alphabet. -/
theorem alike_withRules (consistent : declarations.Consistent)
    (admitted : ∀ rule ∈ rules, declarations.Admits rule)
    (related : ∀ place symbols, symbols.length = declarations.tapeCount →
      (∀ symbol ∈ symbols, symbol ∈ declarations.tapeAlphabet) →
        Option.Rel (Transition.SameDeed number)
          (declarations.search place symbols 1 declarations.rules)
          (declarations.search place symbols 1 rules)) :
    declarations.program.Alike number (declarations.withRules rules).program where
  tapeCount_eq := rfl
  inputAlphabet_eq := rfl
  tapeAlphabet_eq := rfl
  blank_eq := rfl
  initial_eq := rfl
  name_eq := by
    intro place
    cases named : declarations.states[place]? <;>
      simp [Program.stateAt, program, assemble, withRules, assembleState, named]
  accepting_eq := by
    intro place
    cases named : declarations.states[place]? <;>
      simp [Program.stateAt, program, assemble, withRules, assembleState, named]
  rules_related := by
    intro place symbols length known
    rw [ruleFor?_stateAt_withRules consistent admitted]
    have declared := ruleFor?_stateAt_withRules consistent consistent.rules_admitted place symbols
    exact declared ▸ related place symbols length known

/-- Rules may be replaced by others if the fit stays and the search finds the same: the declarations are
    built still, and the machine runs alike. -/
theorem build_withRules_runsAlike {program : Program} (built : declarations.build = .ok program)
    (admitted : ∀ rule ∈ rules, declarations.Admits rule)
    (related : ∀ place symbols, symbols.length = declarations.tapeCount →
      (∀ symbol ∈ symbols, symbol ∈ declarations.tapeAlphabet) →
        Option.Rel (Transition.SameDeed number)
          (declarations.search place symbols 1 declarations.rules)
          (declarations.search place symbols 1 rules)) :
    ∃ changed, (declarations.withRules rules).build = .ok changed ∧
      program.RunsAlike number changed := by
  obtain ⟨consistent, rfl⟩ := build_eq_ok_iff.1 built
  have rebuilt : (declarations.withRules rules).build = .ok (declarations.withRules rules).program :=
    build_eq_ok_iff.2 ⟨consistent.withRules admitted, rfl⟩
  have alike := alike_withRules consistent admitted related
  exact ⟨_, rebuilt, alike.runsAlike consistent.wellFormed⟩

/-! ### One rule replaced by a row -/

/-- The number that a rule had before a row of `count` rules took the place of the one that follows
    `before` others. All rules of the row have the number of that one. -/
def replacedNumber (before count number : Nat) : Nat :=
  if number ≤ before then number
  else if number ≤ before + count then before + 1
  else number + 1 - count

theorem replacedNumber_of_le {before count number : Nat} (early : number ≤ before) :
    replacedNumber before count number = number :=
  if_pos early

theorem replacedNumber_row {before count index : Nat} (bound : index < count) :
    replacedNumber before count (before + 1 + index) = before + 1 := by
  unfold replacedNumber
  rw [if_neg (by omega), if_pos (by omega)]

theorem replacedNumber_after (before count index : Nat) :
    replacedNumber before count (before + count + 1 + index) = before + 2 + index := by
  unfold replacedNumber
  rw [if_neg (by omega), if_neg (by omega)]
  omega

/-- A rule may be replaced by a row that finds the same wherever no rule before it applies. -/
theorem build_replaced_runsAlike {program : Program} (built : declarations.build = .ok program)
    {before after row : List RuleDeclaration} {rule : RuleDeclaration}
    (listed : declarations.rules = before ++ rule :: after)
    (admitted : ∀ copy ∈ row, declarations.Admits copy)
    (related : ∀ place symbols, symbols.length = declarations.tapeCount →
      (∀ symbol ∈ symbols, symbol ∈ declarations.tapeAlphabet) →
        declarations.search place symbols 1 before = none →
          Option.Rel (Transition.SameDeed (replacedNumber before.length row.length))
            (declarations.search place symbols (before.length + 1) [rule])
            (declarations.search place symbols (before.length + 1) row)) :
    ∃ changed, (declarations.withRules (before ++ row ++ after)).build = .ok changed ∧
      program.RunsAlike (replacedNumber before.length row.length) changed := by
  have kept := (build_eq_ok_iff.1 built).1.rules_admitted
  rw [listed, List.forall_mem_append, List.forall_mem_cons] at kept
  obtain ⟨beforeAdmitted, -, afterAdmitted⟩ := kept
  apply build_withRules_runsAlike built
  · rw [List.forall_mem_append, List.forall_mem_append]
    exact ⟨⟨beforeAdmitted, admitted⟩, afterAdmitted⟩
  · intro place symbols length known
    rw [listed, List.append_assoc, ← List.singleton_append, search_append, search_append,
      search_append, search_append, Nat.add_comm 1]
    -- What stands before the rule keeps its numbers; what stands after it is renumbered.
    apply rel_or
    · apply search_shift
      intro index bound
      exact (replacedNumber_of_le (by omega)).symm
    · intro none
      apply rel_or (related place symbols length known none)
      intro _
      apply search_shift
      intro index _
      rw [Nat.add_right_comm before.length 1 row.length]
      exact (replacedNumber_after before.length row.length index).symm

end Declarations

end Multitape
