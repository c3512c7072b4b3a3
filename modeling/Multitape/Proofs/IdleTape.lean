/-
Module: Multitape.Proofs.IdleTape
Purpose: A tape on which nothing is ever read or written does no harm. Every rule of a program gets one more
  tape, on which it takes anything, writes the blank and moves wherever it likes. The program that comes of it
  is built as the old one was, and its machine does what the old one does: the tape behind the others stays
  blank however its head wanders, and all that shows of it is one more blank among the symbols of a
  rejection. So fewer tapes are a case of more tapes, and one tape is the least of them.
Main exports: Program.withIdleTape, Declarations.withIdleTape, program_withIdleTape, Tape.Idle,
  ruleFor?_withIdleTape, execute_withIdleTape, Machine.BesideIdle, BesideIdle.inStep, BesideIdle.start,
  idle_tape_changes_nothing
-/
import Multitape.Proofs.Lockstep
import Multitape.Proofs.MachineInvariant

namespace Multitape

/-! ### One more tape -/

/-- The rule with one more tape, on which it takes anything, writes a symbol and moves somewhere. -/
def Transition.withIdleTape (transition : Transition) (blank : Char) (turn : Direction) : Transition :=
  { transition with
    read := transition.read ++ [wildcard]
    write := transition.write ++ [blank]
    directions := transition.directions ++ [turn] }

/-- The state whose rules have one more tape. Where a rule moves there depends on its number. -/
def State.withIdleTape (state : State) (blank : Char) (turns : Nat → Direction) : State :=
  { state with
    transitions := state.transitions.map fun transition =>
      transition.withIdleTape blank (turns transition.id) }

/-- The program with one more tape, on which every rule writes the blank. -/
def Program.withIdleTape (program : Program) (turns : Nat → Direction) : Program :=
  { program with
    tapeCount := program.tapeCount + 1
    states := program.states.map fun state => state.withIdleTape program.blank turns }

/-- The declared rule with one more tape. -/
def RuleDeclaration.withIdleTape (rule : RuleDeclaration) (blank : Char) (turn : Direction) :
    RuleDeclaration :=
  { rule with
    read := rule.read ++ [wildcard]
    write := rule.write ++ [blank]
    directions := rule.directions ++ [turn] }

/-- The declarations with one more tape. Rules are numbered from 1. -/
def Declarations.withIdleTape (declarations : Declarations) (turns : Nat → Direction) : Declarations :=
  { declarations with
    tapeCount := declarations.tapeCount + 1
    rules := declarations.rules.mapIdx fun place rule =>
      rule.withIdleTape declarations.blank (turns (1 + place)) }

/-! ### It is built -/

namespace Declarations

variable {declarations : Declarations} {turns : Nat → Direction}

theorem Admits.withIdleTape (consistent : declarations.Consistent) {rule : RuleDeclaration}
    (admits : declarations.Admits rule) (turn : Direction) :
    (declarations.withIdleTape turns).Admits (rule.withIdleTape declarations.blank turn) where
  source_mem := admits.source_mem
  target_mem := admits.target_mem
  source_not_accepting := admits.source_not_accepting
  read_length := by simp [RuleDeclaration.withIdleTape, Declarations.withIdleTape, admits.read_length]
  write_length := by simp [RuleDeclaration.withIdleTape, Declarations.withIdleTape, admits.write_length]
  directions_length := by
    simp [RuleDeclaration.withIdleTape, Declarations.withIdleTape, admits.directions_length]
  read_mem := List.forall_mem_append.2 ⟨admits.read_mem, by simp⟩
  write_mem := by
    refine List.forall_mem_append.2 ⟨admits.write_mem, fun symbol mem => ?_⟩
    obtain rfl := List.mem_singleton.1 mem
    exact consistent.blank_mem

/-- The wildcard may be read and the blank may be written, so one more tape fits. -/
theorem Consistent.withIdleTape (consistent : declarations.Consistent) (turns : Nat → Direction) :
    (declarations.withIdleTape turns).Consistent where
  tapes_pos := Nat.succ_pos declarations.tapeCount
  states_ne_nil := consistent.states_ne_nil
  states_nodup := consistent.states_nodup
  wildcard_not_mem := consistent.wildcard_not_mem
  blank_mem := consistent.blank_mem
  initial_mem := consistent.initial_mem
  accepting_mem := consistent.accepting_mem
  rules_admitted := by
    intro rule mem
    obtain ⟨place, bound, rfl⟩ := List.mem_mapIdx.1 mem
    exact (consistent.rules_admitted _ (List.getElem_mem bound)).withIdleTape consistent _

/-- Rules keep their numbers and their states. -/
theorem transitionsFrom_withIdleTape (id : Nat) (rules : List RuleDeclaration) (blank : Char) :
    (declarations.withIdleTape turns).transitionsFrom id
        (rules.mapIdx fun place rule => rule.withIdleTape blank (turns (id + place))) =
      (declarations.transitionsFrom id rules).map fun transition =>
        transition.withIdleTape blank (turns transition.id) := by
  induction rules generalizing id with
  | nil => rfl
  | cons rule rules ih =>
      have later : (fun place (rule : RuleDeclaration) =>
          rule.withIdleTape blank (turns (id + (place + 1)))) =
            fun place rule => rule.withIdleTape blank (turns (id + 1 + place)) := by
        funext place rule
        rw [Nat.add_right_comm, Nat.add_assoc]
      rw [List.mapIdx_cons, transitionsFrom, transitionsFrom, List.map_cons, ← ih (id + 1), later]
      rfl

/-- The declarations with one more tape make the program with one more tape. -/
theorem program_withIdleTape (declarations : Declarations) (turns : Nat → Direction) :
    (declarations.withIdleTape turns).program = declarations.program.withIdleTape turns := by
  have transitions : (declarations.withIdleTape turns).transitions =
      declarations.transitions.map fun transition =>
        transition.withIdleTape declarations.blank (turns transition.id) :=
    transitionsFrom_withIdleTape 1 declarations.rules declarations.blank
  have states : (declarations.withIdleTape turns).program.states =
      (declarations.program.withIdleTape turns).states := by
    apply List.ext_getElem?
    intro place
    simp only [program, assemble, Program.withIdleTape, List.getElem?_map, List.getElem?_mapIdx,
      transitions, Option.map_map]
    congr 1
    funext name
    simp only [Function.comp_apply, assembleState, State.withIdleTape, List.filter_map]
    rfl
  exact congrArg (fun states => { declarations.program.withIdleTape turns with states := states }) states

end Declarations

/-! ### The tape stays blank -/

namespace Tape

variable {tape : Tape} {blank : Char}

/-- Nothing but blanks is on the tape, wherever one looks. -/
def Idle (blank : Char) (tape : Tape) : Prop := ∀ place, tape.view.cell place = blank

theorem idle_withBlank (alphabet : Alphabet) (blank : Char) : (withBlank alphabet blank).Idle blank := by
  intro place
  have shown := view_withBlank_ahead alphabet blank []
  rw [show withBlank alphabet blank = { withBlank alphabet blank with ahead := [] } from rfl, shown]
  simp [InfiniteTape.ofWord]

theorem Idle.peek_eq (idle : tape.Idle blank) : tape.peek = blank := by
  rw [← view_read]
  exact idle _

theorem Idle.settle (idle : tape.Idle blank) : tape.settle.Idle blank := by
  unfold Idle
  rwa [view_settle]

/-- A blank that is stored behind all other cells is not seen. -/
theorem view_pushBlank (tape : Tape) : tape.pushBlank.view = tape.view := by
  refine view_eq_of_around rfl (fun distance => ?_) (fun distance => ?_)
  · rw [view_head, view_cell_right]
    simp only [pushBlank, List.getElem?_append, List.getElem?_singleton]
    grind
  · rw [view_head, view_cell_left]
    rfl

theorem Idle.pushBlank (idle : tape.Idle blank) : tape.pushBlank.Idle blank := by
  unfold Idle
  rwa [view_pushBlank]

/-- The head may wander, as long as it writes blanks. -/
theorem Idle.wander (idle : tape.Idle blank) (turn : Direction) :
    ((tape.write blank).shift turn).Idle blank := by
  intro place
  rw [view_shift _ (by simp [write]), view_write]
  simp only [InfiniteTape.shift, InfiniteTape.write, idle place, ite_self]

end Tape

/-! ### Rules with one more tape -/

/-- The wildcard takes whatever is on the tape. -/
theorem Transition.accepts_wildcard (entries symbols : List Char) (symbol : Char) :
    accepts (entries ++ [wildcard]) (symbols ++ [symbol]) = accepts entries symbols := by
  induction entries generalizing symbols with
  | nil =>
      cases symbols with
      | nil => rfl
      | cons first symbols => cases symbols <;> simp [accepts]
  | cons entry entries ih =>
      cases symbols with
      | nil => cases entries <;> simp [accepts]
      | cons first symbols => simp only [List.cons_append, accepts, ih]

/-- A state takes the rule that it would take without the tape. -/
theorem State.ruleFor?_withIdleTape (state : State) (blank : Char) (turns : Nat → Direction)
    (symbols : List Char) (symbol : Char) :
    (state.withIdleTape blank turns).ruleFor? (symbols ++ [symbol]) =
      (state.ruleFor? symbols).map fun transition =>
        transition.withIdleTape blank (turns transition.id) := by
  unfold ruleFor? withIdleTape
  rw [List.find?_map]
  congr 2
  funext transition
  exact Transition.accepts_wildcard transition.read symbols symbol

theorem Program.stateAt_withIdleTape (program : Program) (turns : Nat → Direction) (place : Nat) :
    (program.withIdleTape turns).stateAt place =
      (program.stateAt place).withIdleTape program.blank turns := by
  unfold stateAt Program.withIdleTape
  rw [List.getElem?_map]
  cases program.states[place]? <;> rfl

/-- On the other tapes the rule does what it did. -/
theorem Transition.execute_withIdleTape {transition : Transition} {tapes : List Tape}
    (writes : transition.write.length = tapes.length)
    (moves : transition.directions.length = tapes.length) (blank : Char) (turn : Direction)
    (idle : Tape) :
    (transition.withIdleTape blank turn).execute (tapes ++ [idle]) =
      transition.execute tapes ++ [(idle.write blank).shift turn] := by
  simp only [execute, writeAll_eq_actAll, shiftAll_eq_actAll, Transition.withIdleTape]
  rw [actAll_append writes, actAll_append]
  · rfl
  · exact moves.trans (length_actAll _ _).symm

/-! ### Machines with one more tape -/

/-- The rejection with one more symbol under the heads. -/
def Rejection.withSymbol (symbol : Char) : Rejection → Rejection
  | foreignInput foreign => foreignInput foreign
  | stuck state symbols => stuck state (symbols ++ [symbol])

namespace Machine

variable {program : Program} {turns : Nat → Direction} {first second : Machine}

/-- The second machine has one more tape, behind the tapes of the first one, and it is blank. In all
    else it stands as the first one does, but for a blank more in what it tells of a rejection. -/
structure BesideIdle (program : Program) (turns : Nat → Direction) (first second : Machine) : Prop where
  sound : first.Sound program
  program_eq : second.program = program.withIdleTape turns
  tapes_eq : ∃ idle : Tape, idle.Idle program.blank ∧ second.tapes = first.tapes ++ [idle]
  current_eq : second.current = first.current
  lastTransition_eq : second.lastTransition = first.lastTransition
  stepCount_eq : second.stepCount = first.stepCount
  status_eq : second.status = first.status.retell (Rejection.withSymbol program.blank)

/-- An input goes to the first tape, and if it is taken, a blank goes to the last one as to all others. -/
theorem seed_append {tapes : List Tape} (nonempty : tapes ≠ []) (idle : Tape) (input : List Char) :
    seed (tapes ++ [idle]) input =
      ((seed tapes input).1 ++ [if (seed tapes input).2 = none then idle.pushBlank else idle],
        (seed tapes input).2) := by
  obtain ⟨tape, others, rfl⟩ := List.exists_cons_of_ne_nil nonempty
  rw [List.cons_append, seed, seed]
  rcases tape.insert input with ⟨inserted, _ | symbol⟩ <;> simp

namespace BesideIdle

theorem symbols_eq (beside : BesideIdle program turns first second) :
    second.symbols = first.symbols ++ [program.blank] := by
  obtain ⟨idle, blank, tapes⟩ := beside.tapes_eq
  simp [symbols, tapes, blank.peek_eq]

theorem currentState_eq (beside : BesideIdle program turns first second) :
    second.currentState = first.currentState.withIdleTape program.blank turns := by
  rw [currentState, currentState, beside.program_eq, beside.current_eq, beside.sound.program_eq,
    Program.stateAt_withIdleTape]

theorem nextRule?_eq (beside : BesideIdle program turns first second) :
    second.nextRule? = first.nextRule?.map fun transition =>
      transition.withIdleTape program.blank (turns transition.id) := by
  rw [nextRule?, beside.currentState_eq, beside.symbols_eq, State.ruleFor?_withIdleTape]
  rfl

theorem stuckHalt_eq (beside : BesideIdle program turns first second) :
    second.stuckHalt = first.stuckHalt.retell (Rejection.withSymbol program.blank) := by
  rw [stuckHalt, beside.currentState_eq, beside.symbols_eq]
  rfl

/-- The tapes are read and the status is replaced, on both sides. -/
theorem readTapes (wellFormed : program.WellFormed) (beside : BesideIdle program turns first second)
    (status : Status) :
    BesideIdle program turns { first.readTapes with status := status }
      { second.readTapes with status := status.retell (Rejection.withSymbol program.blank) } where
  sound := (beside.sound.readTapes wellFormed).withStatus status
  program_eq := beside.program_eq
  tapes_eq := by
    obtain ⟨idle, blank, tapes⟩ := beside.tapes_eq
    exact ⟨idle.settle, blank.settle, by simp [Machine.readTapes, tapes]⟩
  current_eq := beside.current_eq
  lastTransition_eq := beside.lastTransition_eq
  stepCount_eq := beside.stepCount_eq
  status_eq := rfl

/-- A rule is taken and the status is replaced, on both sides. -/
theorem apply (wellFormed : program.WellFormed) (beside : BesideIdle program turns first second)
    {transition : Transition} (fits : program.Fits transition) (turn : Direction) (status : Status) :
    BesideIdle program turns { first.readTapes.apply transition with status := status }
      { second.readTapes.apply (transition.withIdleTape program.blank turn) with
        status := status.retell (Rejection.withSymbol program.blank) } where
  sound := ((beside.sound.readTapes wellFormed).apply wellFormed fits).withStatus status
  program_eq := beside.program_eq
  tapes_eq := by
    obtain ⟨idle, blank, tapes⟩ := (beside.readTapes wellFormed status).tapes_eq
    have count := (beside.sound.readTapes wellFormed).tapes_length
    refine ⟨(idle.write program.blank).shift turn, blank.wander turn, ?_⟩
    have executed := Transition.execute_withIdleTape (fits.write_length.trans count.symm)
      (fits.directions_length.trans count.symm) program.blank turn idle
    rw [← tapes] at executed
    exact executed
  current_eq := rfl
  lastTransition_eq := rfl
  stepCount_eq := congrArg (· + 1) beside.stepCount_eq
  status_eq := rfl

/-- Both machines find a rule or none, and what they do then keeps them side by side. -/
theorem inStep (wellFormed : program.WellFormed) (beside : BesideIdle program turns first second) :
    InStep (Rejection.withSymbol program.blank) (BesideIdle program turns) first second where
  kept := beside
  status_eq := beside.status_eq
  stuck := fun _ _ => ⟨beside.stuckHalt_eq, beside.readTapes wellFormed⟩
  rules := by
    intro _
    rw [beside.nextRule?_eq]
    cases found : first.nextRule? with
    | none => exact .none
    | some transition =>
        have fits := beside.sound.fits_of_nextRule? wellFormed found
        refine .some ⟨?_, beside.apply wellFormed fits _⟩
        rw [beside.program_eq, beside.sound.program_eq, Program.stateAt_withIdleTape]
        rfl

/-- Both machines are loaded alike, or refuse the same symbol. -/
theorem start (wellFormed : program.WellFormed) (beside : BesideIdle program turns first second)
    (input : List Char) :
    (second.start input).2 = (first.start input).2 ∧
      BesideIdle program turns (first.start input).1 (second.start input).1 := by
  have foreign : second.program.foreignInput? input = first.program.foreignInput? input := by
    rw [beside.program_eq, beside.sound.program_eq]
    rfl
  have nonempty : first.tapes ≠ [] := by
    rw [← List.length_pos_iff, beside.sound.tapes_length]
    exact wellFormed.tapes_pos
  obtain ⟨idle, blank, tapes⟩ := beside.tapes_eq
  have seeding := seed_append nonempty idle input
  rw [← tapes] at seeding
  have sound := beside.sound.start wellFormed input
  have outcome := first.start_outcome input
  generalize (first.start input).1 = next at outcome sound ⊢
  generalize (first.start input).2 = result at outcome ⊢
  cases outcome with
  | foreign found =>
      rw [(StartOutcome.foreign (foreign.trans found)).start_eq]
      exact ⟨rfl, { beside with sound := sound, status_eq := rfl }⟩
  | refused known seeded =>
      rw [seeded] at seeding
      rw [(StartOutcome.refused (foreign.trans known) seeding).start_eq]
      exact ⟨rfl, { beside with sound := sound, status_eq := rfl, tapes_eq := ⟨_, blank, rfl⟩ }⟩
  | loaded known seeded =>
      rw [seeded] at seeding
      rw [(StartOutcome.loaded (foreign.trans known) seeding).start_eq]
      exact ⟨rfl,
        { beside with sound := sound, status_eq := rfl, tapes_eq := ⟨_, blank.pushBlank, rfl⟩ }⟩

end BesideIdle

/-- Fresh machines stand side by side. -/
theorem besideIdle_ofProgram (wellFormed : program.WellFormed) (turns : Nat → Direction) :
    BesideIdle program turns (ofProgram program) (ofProgram (program.withIdleTape turns)) where
  sound := sound_ofProgram wellFormed
  program_eq := rfl
  tapes_eq := ⟨_, Tape.idle_withBlank program.tapeAlphabet program.blank, List.replicate_succ'⟩
  current_eq := rfl
  lastTransition_eq := rfl
  stepCount_eq := rfl
  status_eq := rfl

/-- An idle tape changes nothing. If every rule of a built program gets one more tape, on which it reads
    the wildcard, writes the blank and moves in any direction, then that program is built too. Whatever
    input fresh machines of both are started with, they answer alike to the start and to every step
    after it, but for a blank more among the symbols of a rejection, and after every number of steps they
    agree in the state, the last rule, the counter and all tapes but that one, which is blank. -/
theorem idle_tape_changes_nothing {declarations : Declarations}
    (built : declarations.build = .ok program) (turns : Nat → Direction) :
    (declarations.withIdleTape turns).build = .ok (program.withIdleTape turns) ∧
      ∀ input,
        ((ofProgram (program.withIdleTape turns)).start input).2 =
            ((ofProgram program).start input).2 ∧
          ∀ count,
            (stepTimes count ((ofProgram (program.withIdleTape turns)).start input).1).step.2 =
                (stepTimes count ((ofProgram program).start input).1).step.2.retell
                  (Rejection.withSymbol program.blank) ∧
              BesideIdle program turns
                (stepTimes count ((ofProgram program).start input).1)
                (stepTimes count ((ofProgram (program.withIdleTape turns)).start input).1) := by
  have wellFormed := wellFormed_of_build built
  obtain ⟨consistent, rfl⟩ := Declarations.build_eq_ok_iff.1 built
  refine ⟨Declarations.build_eq_ok_iff.2 ⟨consistent.withIdleTape turns,
    (Declarations.program_withIdleTape declarations turns).symm⟩, fun input => ?_⟩
  obtain ⟨answers, started⟩ := (besideIdle_ofProgram wellFormed turns).start wellFormed input
  exact ⟨answers, kept_stepTimes (fun beside => beside.inStep wellFormed) started⟩

/-- Where rules move on the idle tape: the first one to the left, all others to the right. -/
def wandering (number : Nat) : Direction := if number = 1 then .left else .right

/-- The machine that marks zeros, with a third tape on which its head goes both ways. -/
theorem idle_tape_beside_marker :
    Declarations.marker.build = .ok Declarations.marker.program ∧
      (Declarations.marker.withIdleTape wandering).build =
        .ok (Declarations.marker.program.withIdleTape wandering) ∧
      ((ofProgram (Declarations.marker.program.withIdleTape wandering)).start ['0', '0', '1']).2 =
        .ok .advanced ∧
      ∀ count, BesideIdle Declarations.marker.program wandering
        (stepTimes count ((ofProgram Declarations.marker.program).start ['0', '0', '1']).1)
        (stepTimes count
          ((ofProgram (Declarations.marker.program.withIdleTape wandering)).start ['0', '0', '1']).1) := by
  obtain ⟨built, runs⟩ := idle_tape_changes_nothing Declarations.marker_build wandering
  obtain ⟨answers, beside⟩ := runs ['0', '0', '1']
  exact ⟨Declarations.marker_build, built, answers.trans rfl, fun count => (beside count).2⟩

end Machine

end Multitape
