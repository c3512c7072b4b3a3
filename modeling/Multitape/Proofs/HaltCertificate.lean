/-
Module: Multitape.Proofs.HaltCertificate
Purpose: The status and the counters of a machine can be checked on the machine as it stands, whatever
  was done to it. What a halt says is written down when the machine halts; `Machine.Certified` is that
  it is still true of the state and the tapes, and every operation keeps it. That an accepting state
  has halted the machine is kept only by histories that load no input into a used machine.
Main exports: Machine.Counted, Machine.Certifies, Machine.Certified, certified_of_reachable,
  Machine.Orderly, Orderly.induction, halt_certified_of_history
-/
import Mathlib.Data.List.Induction
import Multitape.Proofs.Erasure

namespace Multitape

/-- The rules of the state at any place are rules of the table. -/
theorem Program.mem_transitions_of_stateAt {program : Program} {place : Nat} {transition : Transition}
    (mem : transition ∈ (program.stateAt place).transitions) : transition ∈ program.transitions := by
  unfold Program.stateAt at mem
  cases found : program.states[place]? with
  | none => simp [found, State.named] at mem
  | some state =>
      rw [found] at mem
      exact List.mem_flatMap.2 ⟨state, List.mem_of_getElem? found, mem⟩

namespace Machine

/-! ### What is certified -/

/-- What the counters of a machine say: no rule has been taken, and the machine is in the initial state,
    or the rule that was taken last leads to the current state. -/
structure Counted (program : Program) (machine : Machine) : Prop where
  count_eq_zero_iff : machine.stepCount = 0 ↔ machine.lastTransition = none
  initial : machine.stepCount = 0 → machine.current = program.initial
  last_rule : 0 < machine.stepCount → ∃ transition ∈ program.transitions,
    machine.lastTransition = some transition.id ∧ transition.target = machine.current

/-- What a halt says of the machine that has halted. -/
def Certifies (program : Program) (machine : Machine) : Halt → Prop
  | .accepted => (program.stateAt machine.current).accepting = true
  | .rejected (.stuck state symbols) =>
      state = (program.stateAt machine.current).name ∧ symbols = machine.symbols ∧
        ∀ transition ∈ (program.stateAt machine.current).transitions,
          transition.isApplicable machine.symbols = false
  | .rejected (.foreignInput symbol) => symbol ≠ wildcard ∧ symbol ∉ program.inputAlphabet

/-- The counters of a machine are right, and if it has halted, what the halt says is true. -/
structure Certified (program : Program) (machine : Machine) : Prop where
  program_eq : machine.program = program
  counted : machine.Counted program
  halted : ∀ halt, machine.status = .halted halt → machine.Certifies program halt

variable {program : Program} {machine : Machine}

theorem certified_ofProgram (program : Program) : (ofProgram program).Certified program where
  program_eq := rfl
  counted :=
    { count_eq_zero_iff := by simp [ofProgram]
      initial := fun _ => rfl
      last_rule := fun taken => absurd taken (Nat.lt_irrefl 0) }
  halted := fun halt status => by simp [ofProgram] at status

/-! ### Steps, starts and resets -/

/-- The counters after a rule: whatever they were, the rule is now the last one. -/
theorem counted_apply (program_eq : machine.program = program) {transition : Transition}
    (rule : machine.nextRule? = some transition) (status : Status) :
    { machine.readTapes.apply transition with status := status }.Counted program where
  count_eq_zero_iff := by simp [Machine.apply]
  initial := fun none => absurd none (Nat.succ_ne_zero _)
  last_rule := fun _ => by
    have mem : transition ∈ (machine.program.stateAt machine.current).transitions :=
      List.mem_of_find?_eq_some rule
    rw [program_eq] at mem
    exact ⟨transition, Program.mem_transitions_of_stateAt mem, rfl, rfl⟩

/-- A machine without a rule says so, and is right. -/
theorem certifies_stuckHalt (program_eq : machine.program = program)
    (noRule : machine.nextRule? = none) :
    (machine.readTapes.haltWith machine.stuckHalt).Certifies program machine.stuckHalt := by
  have symbols : (machine.readTapes.haltWith machine.stuckHalt).symbols = machine.symbols :=
    machine.readTapes_symbols
  refine ⟨?_, symbols.symm, fun transition mem => ?_⟩
  · rw [← program_eq]
    rfl
  · rw [symbols, ← Bool.not_eq_true]
    rw [← program_eq] at mem
    exact List.find?_eq_none.1 noRule transition mem

/-- A step writes down a halt that is true, or none. -/
theorem StepOutcome.certified {next : Machine} {result : Step}
    (outcome : StepOutcome machine next result) (certified : machine.Certified program) :
    next.Certified program := by
  cases outcome with
  | resting halted => exact certified
  | stuck live noRule =>
      refine ⟨certified.program_eq, ?_, fun halt status => ?_⟩
      · exact ⟨certified.counted.count_eq_zero_iff, certified.counted.initial,
          certified.counted.last_rule⟩
      · obtain rfl := Status.halted.inj status
        exact certifies_stuckHalt certified.program_eq noRule
  | accepting live rule accepts =>
      refine ⟨certified.program_eq, counted_apply certified.program_eq rule _, fun halt status => ?_⟩
      obtain rfl := Status.halted.inj status
      rw [certified.program_eq] at accepts
      exact accepts
  | advancing live rule refuses =>
      refine ⟨certified.program_eq, counted_apply certified.program_eq rule _, fun halt status => ?_⟩
      cases status

theorem Certified.step (certified : machine.Certified program) :
    machine.step.1.Certified program :=
  machine.step_outcome.certified certified

/-- A symbol that is found to be foreign is. -/
theorem foreign_of_foreignInput? {input : List Char} {symbol : Char}
    (found : program.foreignInput? input = some symbol) :
    symbol ≠ wildcard ∧ symbol ∉ program.inputAlphabet := by
  have foreign := List.find?_some found
  rw [Bool.and_eq_true, bne_iff_ne, Bool.not_eq_true', ← Bool.not_eq_true,
    Alphabet.contains_iff] at foreign
  exact foreign

/-- A start replaces the status before any tape is touched, so what it says of the tapes before is not
    left standing. -/
theorem StartOutcome.certified {input : List Char} {next : Machine} {result : Except Error Step}
    (outcome : StartOutcome machine input next result) (certified : machine.Certified program) :
    next.Certified program := by
  have counted := certified.counted
  cases outcome with
  | foreign found =>
      rw [certified.program_eq] at found
      refine ⟨certified.program_eq, ⟨counted.count_eq_zero_iff, counted.initial, counted.last_rule⟩,
        fun halt status => ?_⟩
      obtain rfl := Status.halted.inj status
      exact foreign_of_foreignInput? found
  | refused known seeded =>
      refine ⟨certified.program_eq, ⟨counted.count_eq_zero_iff, counted.initial, counted.last_rule⟩,
        fun halt status => ?_⟩
      cases status
  | loaded known seeded =>
      refine ⟨certified.program_eq, ⟨counted.count_eq_zero_iff, counted.initial, counted.last_rule⟩,
        fun halt status => ?_⟩
      cases status

theorem Certified.reset (certified : machine.Certified program) : machine.reset.Certified program where
  program_eq := certified.program_eq
  counted :=
    { count_eq_zero_iff := by simp [Machine.reset]
      initial := fun _ => congrArg Program.initial certified.program_eq
      last_rule := fun taken => absurd taken (Nat.lt_irrefl 0) }
  halted := fun halt status => by simp [Machine.reset] at status

/-- Every machine that has come of a program is certified. -/
theorem certified_of_reachable (reachable : Reachable program machine) :
    machine.Certified program :=
  reachable.induction (certified_ofProgram program)
    (fun machine input certified => (machine.start_outcome input).certified certified)
    (fun _ certified => certified.step) (fun _ certified => certified.reset)

/-! ### Orderly histories -/

/-- Whether an operation loads an input. -/
def Operation.loads : Operation → Bool
  | .start _ | .run _ _ => true
  | .step | .reset => false

/-- Every input is loaded into a machine that is fresh or has been reset just before. -/
def Orderly (program : Program) (operations : List Operation) : Prop :=
  ∀ before operation after, operations = before ++ operation :: after → operation.loads = true →
    Ready program ((ofProgram program).performAll before)

theorem orderly_nil (program : Program) : Orderly program [] := by
  intro before operation after same
  simp at same

/-- An orderly history may go on with an operation that loads no input, or if the machine is ready. -/
theorem orderly_concat_iff {before : List Operation} {operation : Operation} :
    Orderly program (before ++ [operation]) ↔ Orderly program before ∧
      (operation.loads = true → Ready program ((ofProgram program).performAll before)) := by
  constructor
  · intro orderly
    refine ⟨fun earlier other after same loads => ?_, orderly before operation [] rfl⟩
    refine orderly earlier other (after ++ [operation]) ?_ loads
    rw [same, List.append_assoc, List.cons_append]
  · rintro ⟨orderly, ready⟩ earlier other after same loads
    rcases List.eq_nil_or_concat after with rfl | ⟨between, last, rfl⟩
    · obtain ⟨rfl, last⟩ := List.append_inj' same rfl
      obtain rfl := List.head_eq_of_cons_eq last
      exact ready loads
    · rw [List.concat_eq_append, ← List.cons_append, ← List.append_assoc] at same
      exact orderly earlier other between (List.append_inj' same rfl).1 loads

/-- What holds of a fresh machine and after its start, and is kept by steps, holds after every orderly
    history: there a machine is left by a reset only, and that makes it fresh. -/
theorem Orderly.induction {Holds : Machine → Prop} (wellFormed : program.WellFormed)
    (fresh : Holds (ofProgram program)) (start : ∀ input, Holds ((ofProgram program).start input).1)
    (step : ∀ machine, Holds machine → Holds machine.step.1) {operations : List Operation}
    (orderly : Orderly program operations) : Holds ((ofProgram program).performAll operations) := by
  induction operations using List.reverseRecOn with
  | nil => exact fresh
  | append_singleton before operation ih =>
      obtain ⟨earlier, ready⟩ := orderly_concat_iff.1 orderly
      have holds : Holds ((ofProgram program).performAll before) := ih earlier
      rw [performAll_append]
      cases operation with
      | step => exact step _ holds
      | reset =>
          have sound : ((ofProgram program).performAll before).Sound program :=
            sound_of_reachable wellFormed ⟨before, rfl⟩
          have erased : ((ofProgram program).performAll before).performAll [.reset] =
              ofProgram program := sound.reset_eq
          rw [erased]
          exact fresh
      | start input =>
          have unused := (ready rfl).eq_ofProgram wellFormed
          rw [unused]
          exact start input
      | run limit input =>
          have unused := (ready rfl).eq_ofProgram wellFormed
          rw [unused]
          -- A run is a start of the fresh machine and then steps, or it is not done at all.
          cases found : (ofProgram program).run limit input with
          | none => simpa [performAll, perform, found] using fresh
          | some run =>
              obtain ⟨count, final⟩ := exists_run_final found
              have last : Holds run.final := final ▸ stepTimes_induction step count (start input)
              simpa [performAll, perform, found] using last

/-- A machine is in an accepting state exactly if it has halted there. -/
structure Settled (program : Program) (machine : Machine) : Prop where
  program_eq : machine.program = program
  accepting_iff : (program.stateAt machine.current).accepting = true ↔
    machine.status = .halted .accepted

/-- A machine whose state does not accept and that has not accepted is settled. -/
theorem settled_of_refuses (program_eq : machine.program = program)
    (refuses : (program.stateAt machine.current).accepting = false)
    (status : machine.status ≠ .halted .accepted) : machine.Settled program where
  program_eq := program_eq
  accepting_iff := by simp [refuses, status]

theorem StepOutcome.settled {next : Machine} {result : Step}
    (outcome : StepOutcome machine next result) (settled : machine.Settled program) :
    next.Settled program := by
  cases outcome with
  | resting halted => exact settled
  | stuck live noRule =>
      have unhalted : machine.status ≠ .halted .accepted := halt?_eq_none_iff.1 live .accepted
      have refuses := Bool.eq_false_iff.2 (mt settled.accepting_iff.1 unhalted)
      exact settled_of_refuses settled.program_eq refuses (by simp [haltWith, stuckHalt])
  | accepting live rule accepts =>
      rw [settled.program_eq] at accepts
      exact ⟨settled.program_eq, iff_of_true accepts rfl⟩
  | advancing live rule refuses =>
      rw [settled.program_eq] at refuses
      exact settled_of_refuses settled.program_eq refuses (by simp)

/-- A fresh machine that is started stays in the initial state. -/
theorem settled_start_ofProgram (wellFormed : program.WellFormed) (input : List Char) :
    ((ofProgram program).start input).1.Settled program := by
  have refuses : (program.stateAt program.initial).accepting = false :=
    wellFormed.initial_not_accepting
  have outcome := (ofProgram program).start_outcome input
  generalize ((ofProgram program).start input).1 = next at *
  generalize ((ofProgram program).start input).2 = result at *
  cases outcome with
  | foreign => exact settled_of_refuses rfl refuses (by simp [haltWith])
  | refused => exact settled_of_refuses rfl refuses (by simp)
  | loaded => exact settled_of_refuses rfl refuses (by simp)

theorem settled_of_orderly (wellFormed : program.WellFormed) {operations : List Operation}
    (orderly : Orderly program operations) :
    ((ofProgram program).performAll operations).Settled program :=
  orderly.induction wellFormed
    (settled_of_refuses rfl wellFormed.initial_not_accepting (by simp [ofProgram]))
    (settled_start_ofProgram wellFormed) (fun machine settled => machine.step_outcome.settled settled)

/-! ### Certificates -/

/-- Every halt is certified by the configuration. Whatever was done to the machine of a built program, its
    counters tell of the rule that was taken last; if it has halted, what the halt says is true of its
    state and its tapes as they are now; and another step answers with the same halt and changes
    nothing. If every input was loaded into a fresh or just reset machine, then the current state accepts
    exactly if the machine has halted in it. -/
theorem halt_certified_of_history {declarations : Declarations} {program : Program}
    (built : declarations.build = .ok program) (operations : List Operation) :
    ((ofProgram program).performAll operations).Certified program ∧
      (∀ halt, ((ofProgram program).performAll operations).status = .halted halt →
        ((ofProgram program).performAll operations).step =
          ((ofProgram program).performAll operations, .halted halt)) ∧
      (Orderly program operations →
        ((program.stateAt ((ofProgram program).performAll operations).current).accepting = true ↔
          ((ofProgram program).performAll operations).status = .halted .accepted)) := by
  have wellFormed : program.WellFormed := wellFormed_of_build built
  refine ⟨certified_of_reachable ⟨operations, rfl⟩, fun halt halted => step_of_halted halted, ?_⟩
  intro orderly
  exact (settled_of_orderly wellFormed orderly).accepting_iff

/-- A history of the marker in good order: an input with a foreign symbol is rejected, and after a reset
    another one is loaded, stepped through and accepted. -/
def orderlyHistory : List Operation :=
  [.run 20 ['x'], .reset, .start ['0'], .step, .step, .step, .step, .step]

theorem orderly_orderlyHistory : Orderly Declarations.marker.program orderlyHistory := by
  have run := orderly_concat_iff.2 ⟨orderly_nil Declarations.marker.program,
    fun _ : (Operation.run 20 ['x']).loads = true => .fresh⟩
  have reset := orderly_concat_iff.2 ⟨run, fun loads : Operation.reset.loads = true => nomatch loads⟩
  have start := orderly_concat_iff.2 ⟨reset,
    fun _ : (Operation.start ['0']).loads = true => .afterReset ⟨[.run 20 ['x']], rfl⟩⟩
  have step : ∀ {before}, Orderly Declarations.marker.program before →
      Orderly Declarations.marker.program (before ++ [.step]) := fun orderly =>
    orderly_concat_iff.2 ⟨orderly, fun loads : Operation.step.loads = true => nomatch loads⟩
  exact step (step (step (step (step start))))

/-- At the end of this history the marker has accepted, and everything about it says so. -/
theorem halt_certified_after_orderlyHistory :
    Declarations.marker.build = .ok Declarations.marker.program ∧
      Orderly Declarations.marker.program orderlyHistory ∧
      ((ofProgram Declarations.marker.program).performAll orderlyHistory).status =
        .halted .accepted ∧
      ((ofProgram Declarations.marker.program).performAll orderlyHistory).Certified
        Declarations.marker.program ∧
      ((ofProgram Declarations.marker.program).performAll orderlyHistory).step =
        ((ofProgram Declarations.marker.program).performAll orderlyHistory, .halted .accepted) ∧
      (Declarations.marker.program.stateAt
        ((ofProgram Declarations.marker.program).performAll orderlyHistory).current).accepting =
        true := by
  have accepted : ((ofProgram Declarations.marker.program).performAll orderlyHistory).status =
      .halted .accepted := rfl
  obtain ⟨certified, rests, settled⟩ :=
    halt_certified_of_history Declarations.marker_build orderlyHistory
  exact ⟨Declarations.marker_build, orderly_orderlyHistory, accepted, certified,
    rests .accepted accepted, (settled orderly_orderlyHistory).2 accepted⟩

/-- An input that is loaded without a reset finds the machine in an accepting state and sets it going. -/
example :
    let machine := (ofProgram Declarations.marker.program).performAll [.run 20 ['0'], .start ['0']]
    (Declarations.marker.program.stateAt machine.current).accepting = true ∧
      machine.status = .running :=
  ⟨rfl, rfl⟩

end Machine

end Multitape
