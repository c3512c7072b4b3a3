/-
Module: Multitape.Proofs.TextbookMachine
Purpose: A machine with stored tapes does what the textbook machine of its program does, step by
  step and for ever. The simulation relation is `Machine.Live`: as long as a machine is live, a step
  of it is a step of the textbook machine; the step that ends this ends the textbook machine as
  well.
Main exports: Configuration.Final, Configuration.Within, Configuration.within_unique, Machine.Live,
  step_refines, start_refines, Live.within_stepTimes, Live.halts_iff, machine_refines_textbook
-/
import Multitape.Proofs.MachineInvariant

namespace Multitape

/-! ### The textbook machine is deterministic -/

namespace Configuration

variable {program : Program}

/-- The textbook machine has stopped: its state accepts, or has no rule for what is scanned. -/
def Final (program : Program) (configuration : Configuration) : Prop :=
  (program.stateAt configuration.state).accepting = true ∨
    ∀ transition, ¬ Fires (program.stateAt configuration.state) configuration.scanned transition

/-- Where the textbook machine stands when it has been let make a number of steps. It makes fewer
    only if it has stopped before. -/
def Within (program : Program) (count : Nat) (first last : Configuration) : Prop :=
  ∃ taken ≤ count, After program taken first last ∧ (taken < count → Final program last)

theorem accepts_iff {entries symbols : List Char} :
    Transition.accepts entries symbols = true ↔
      entries.length = symbols.length ∧
        ∀ entry ∈ entries.zip symbols, entry.1 = wildcard ∨ entry.1 = entry.2 := by
  induction entries generalizing symbols with
  | nil => cases symbols <;> simp [Transition.accepts]
  | cons entry entries ih =>
      cases symbols with
      | nil => simp [Transition.accepts]
      | cons symbol symbols =>
          simp only [Transition.accepts, Bool.and_eq_true, Bool.or_eq_true, beq_iff_eq, ih,
            List.length_cons, Nat.add_right_cancel_iff, List.zip_cons_cons, List.forall_mem_cons]
          exact and_left_comm

theorem matches_iff {transition : Transition} {symbols : List Char} :
    Matches transition symbols ↔ transition.isApplicable symbols = true :=
  accepts_iff.symm

/-- The rule that fires is the rule that is looked up. -/
theorem fires_iff {state : State} {symbols : List Char} {transition : Transition} :
    Fires state symbols transition ↔ state.ruleFor? symbols = some transition := by
  unfold Fires State.ruleFor?
  rw [List.find?_eq_some_iff_append]
  constructor
  · intro given
    rcases given with ⟨before, after, rules, fits, earlier⟩
    refine ⟨matches_iff.1 fits, before, after, rules, ?_⟩
    intro other mem
    have refused := earlier other mem
    rw [matches_iff] at refused
    simpa using refused
  · intro given
    rcases given with ⟨fits, before, after, rules, earlier⟩
    refine ⟨before, after, rules, matches_iff.2 fits, ?_⟩
    intro other mem fitsToo
    have refused := earlier other mem
    rw [matches_iff.1 fitsToo] at refused
    exact absurd refused (by decide)

theorem forall_not_fires_iff {state : State} {symbols : List Char} :
    (∀ transition, ¬ Fires state symbols transition) ↔ state.ruleFor? symbols = none := by
  simp only [fires_iff]
  rw [Option.eq_none_iff_forall_ne_some]

theorem next_unique {configuration first second : Configuration}
    (one : Next program configuration first) (two : Next program configuration second) :
    first = second := by
  cases one with
  | take running fires =>
      cases two with
      | take _ otherFires =>
          rw [fires_iff] at fires otherFires
          rw [fires] at otherFires
          cases otherFires
          rfl

theorem Final.not_next {configuration : Configuration} (final : Final program configuration)
    (next : Configuration) : ¬ Next program configuration next := by
  intro taken
  cases taken with
  | take running fires =>
      rcases final with accepting | noRule
      · rw [accepting] at running
        cases running
      · exact noRule _ fires

theorem After.head {count : Nat} {first second last : Configuration}
    (next : Next program first second) (steps : After program count second last) :
    After program (count + 1) first last := by
  induction steps with
  | zero configuration => exact .succ (.zero first) next
  | succ _ step ih => exact .succ (ih next) step

theorem after_unique {count : Nat} {start first second : Configuration}
    (one : After program count start first) (two : After program count start second) :
    first = second := by
  induction one generalizing second with
  | zero configuration =>
      cases two
      rfl
  | succ _ next ih =>
      cases two with
      | succ steps otherNext =>
          obtain rfl := ih steps
          exact next_unique next otherNext

/-- A longer path goes through the end of a shorter one. -/
theorem After.exists_next {taken count : Nat} {start middle last : Configuration}
    (shorter : After program taken start middle) (longer : After program count start last)
    (lower : taken < count) : ∃ next, Next program middle next := by
  induction longer with
  | zero => exact absurd lower (Nat.not_lt_zero taken)
  | @succ count start before last steps next ih =>
      rcases Nat.lt_succ_iff_lt_or_eq.1 lower with lower | rfl
      · exact ih shorter lower
      · obtain rfl := after_unique shorter steps
        exact ⟨last, next⟩

/-- Given a number of steps, the textbook machine stands in one configuration. -/
theorem within_unique {count : Nat} {start first second : Configuration}
    (one : Within program count start first) (two : Within program count start second) :
    first = second := by
  obtain ⟨taken, bound, steps, stopped⟩ := one
  obtain ⟨others, otherBound, otherSteps, otherStopped⟩ := two
  rcases Nat.lt_trichotomy taken others with lower | rfl | upper
  · obtain ⟨next, more⟩ := steps.exists_next otherSteps lower
    exact absurd more ((stopped (Nat.lt_of_lt_of_le lower otherBound)).not_next next)
  · exact after_unique steps otherSteps
  · obtain ⟨next, more⟩ := otherSteps.exists_next steps upper
    exact absurd more ((otherStopped (Nat.lt_of_lt_of_le upper bound)).not_next next)

/-- The textbook machine stops in one configuration. -/
theorem final_unique {taken count : Nat} {start first second : Configuration}
    (one : After program taken start first) (firstFinal : Final program first)
    (two : After program count start second) (secondFinal : Final program second) :
    first = second := by
  rcases Nat.lt_trichotomy taken count with lower | rfl | upper
  · obtain ⟨next, more⟩ := one.exists_next two lower
    exact absurd more (firstFinal.not_next next)
  · exact after_unique one two
  · obtain ⟨next, more⟩ := two.exists_next one upper
    exact absurd more (secondFinal.not_next next)

theorem accepts_iff_final {input : List Char} :
    Accepts program input ↔ ∃ taken last, After program taken (initial program input) last ∧
      Final program last ∧ (program.stateAt last.state).accepting = true := by
  constructor
  · intro given
    rcases given with ⟨taken, last, steps, accepting⟩
    exact ⟨taken, last, steps, Or.inl accepting, accepting⟩
  · intro given
    rcases given with ⟨taken, last, steps, -, accepting⟩
    exact ⟨taken, last, steps, accepting⟩

theorem rejects_iff_final {input : List Char} :
    Rejects program input ↔ ∃ taken last, After program taken (initial program input) last ∧
      Final program last ∧ (program.stateAt last.state).accepting = false := by
  constructor
  · intro given
    rcases given with ⟨taken, last, steps, refuses, noRule⟩
    exact ⟨taken, last, steps, Or.inr noRule, refuses⟩
  · intro given
    rcases given with ⟨taken, last, steps, final, refuses⟩
    rcases final with accepting | noRule
    · rw [refuses] at accepting
      cases accepting
    · exact ⟨taken, last, steps, refuses, noRule⟩

/-- One more step is made, or none because the machine has stopped. -/
theorem Within.succ {count : Nat} {start middle last : Configuration}
    (steps : Within program count start middle)
    (more : Next program middle last ∨ last = middle ∧ Final program middle) :
    Within program (count + 1) start last := by
  obtain ⟨taken, bound, path, stopped⟩ := steps
  rcases more with next | ⟨rfl, final⟩
  · have whole : taken = count := by
      apply Nat.le_antisymm bound
      apply Nat.le_of_not_lt
      intro lower
      exact (stopped lower).not_next last next
    subst whole
    refine ⟨taken + 1, Nat.le_refl _, .succ path next, ?_⟩
    intro impossible
    exact absurd impossible (Nat.lt_irrefl _)
  · exact ⟨taken, Nat.le_succ_of_le bound, path, fun _ => final⟩

end Configuration

/-! ### One step -/

namespace Machine

open Multitape.Configuration

variable {program : Program} {machine : Machine}

/-- A machine that has not halted and is in no accepting state. -/
structure Live (program : Program) (machine : Machine) : Prop where
  sound : machine.Sound program
  unhalted : machine.halt? = none
  running : (program.stateAt machine.current).accepting = false

theorem scanned_configuration (machine : Machine) :
    machine.configuration.scanned = machine.symbols := by
  simp [configuration, scanned, symbols, Tape.view_read]

/-- Reading stores blanks, which are not seen. -/
@[simp] theorem configuration_readTapes (machine : Machine) :
    machine.readTapes.configuration = machine.configuration := by
  simp [configuration, readTapes, Function.comp_def]

theorem Sound.nextRule?_eq (sound : machine.Sound program) :
    machine.nextRule? =
      (program.stateAt machine.configuration.state).ruleFor? machine.configuration.scanned := by
  rw [scanned_configuration, ← sound.program_eq]
  rfl

/-- Taking a rule that fits, a machine does to the endless tapes what the rule says. -/
theorem Sound.configuration_apply (sound : machine.Sound program) (wellFormed : program.WellFormed)
    {transition : Transition} (fits : program.Fits transition) :
    (machine.readTapes.apply transition).configuration =
      ⟨transition.target, act transition machine.configuration.tapes⟩ := by
  have read := sound.readTapes wellFormed
  have writes : transition.write.length = machine.readTapes.tapes.length := by
    rw [fits.write_length, read.tapes_length]
  have moves : transition.directions.length = machine.readTapes.tapes.length := by
    rw [fits.directions_length, read.tapes_length]
  rw [← configuration_readTapes machine, configuration, Machine.apply,
    transition.map_view_execute writes moves]
  rfl

/-- Taking the rule that was looked up is the step of the textbook machine. -/
theorem Live.next (live : Live program machine) (wellFormed : program.WellFormed)
    {transition : Transition} (rule : machine.nextRule? = some transition) :
    Next program machine.configuration (machine.readTapes.apply transition).configuration := by
  have fits := live.sound.fits_of_nextRule? wellFormed rule
  rw [live.sound.configuration_apply wellFormed fits]
  rw [live.sound.nextRule?_eq, ← fires_iff] at rule
  exact .take live.running rule

/-- What a step of a live machine is for the textbook machine. If it advances, that is a step and
    the machine is live again; if it halts, the textbook machine comes to an accepting state or has
    no rule. -/
def Refines (program : Program) (machine next : Machine) : Step → Prop
  | .advanced => Next program machine.configuration next.configuration ∧ Live program next
  | .halted .accepted => Next program machine.configuration next.configuration ∧
      (program.stateAt next.configuration.state).accepting = true
  | .halted (.rejected _) => next.configuration = machine.configuration ∧
      ∀ transition, ¬ Fires (program.stateAt machine.configuration.state)
        machine.configuration.scanned transition

theorem StepOutcome.refines {next : Machine} {result : Step}
    (outcome : StepOutcome machine next result)
    (wellFormed : program.WellFormed) (live : Live program machine) :
    Refines program machine next result := by
  have sound : next.Sound program := outcome.sound wellFormed live.sound
  cases outcome with
  | resting halted =>
      have unhalted := live.unhalted
      simp [halt?, halted] at unhalted
  | stuck _ noRule =>
      refine ⟨configuration_readTapes machine, ?_⟩
      rw [forall_not_fires_iff, ← live.sound.nextRule?_eq]
      exact noRule
  | accepting _ rule accepts =>
      rw [live.sound.program_eq] at accepts
      exact ⟨live.next wellFormed rule, accepts⟩
  | advancing _ rule refuses =>
      rw [live.sound.program_eq] at refuses
      exact ⟨live.next wellFormed rule, ⟨sound, rfl, refuses⟩⟩

/-- Every step of a live machine refines the textbook machine. -/
theorem step_refines (wellFormed : program.WellFormed) (live : Live program machine) :
    Refines program machine machine.step.1 machine.step.2 :=
  machine.step_outcome.refines wellFormed live

/-! ### The start -/

theorem foreignInput?_eq_none {input : List Char}
    (known : ∀ symbol ∈ input, symbol ∈ program.inputAlphabet) :
    program.foreignInput? input = none :=
  Program.foreignInput?_eq_none_iff.2 fun symbol mem => Or.inl (known symbol mem)

/-- The first tape of a fresh machine shows the input, every other shows blanks. -/
theorem seed_fresh (program : Program) {input : List Char} (tapes : 0 < program.tapeCount)
    (known : ∀ symbol ∈ input, symbol ∈ program.tapeAlphabet) :
    (seed (ofProgram program).tapes input).2 = none ∧
      (seed (ofProgram program).tapes input).1.map Tape.view =
        (Configuration.initial program input).tapes := by
  let fresh : Tape := Tape.withBlank program.tapeAlphabet program.blank
  have inserted : fresh.insert input = ({ fresh with ahead := input }, none) :=
    Tape.insert_eq_append known
  have first : { fresh with ahead := input }.view = InfiniteTape.ofWord program.blank input :=
    Tape.view_withBlank_ahead program.tapeAlphabet program.blank input
  have other : fresh.pushBlank.view = InfiniteTape.ofWord program.blank [] := by
    rw [← Tape.view_withBlank_ahead program.tapeAlphabet program.blank []]
    exact fresh.view_settle
  obtain ⟨others, count⟩ := Nat.exists_eq_add_one_of_ne_zero (Nat.ne_of_gt tapes)
  have fields : (ofProgram program).tapes = fresh :: List.replicate others fresh := by
    rw [ofProgram, count, List.replicate_succ]
  rw [fields]
  simp only [seed, inserted, true_and]
  simp [Configuration.initial, count, List.range_succ_eq_map, first, other, Function.comp_def]

/-- An input over both alphabets is taken, and the machine stands where the textbook one starts. -/
theorem start_refines (wellFormed : program.WellFormed) {input : List Char}
    (letters : ∀ symbol ∈ input, symbol ∈ program.inputAlphabet ∧ symbol ∈ program.tapeAlphabet) :
    ∃ next, (ofProgram program).start input = (next, .ok .advanced) ∧ Live program next ∧
      next.configuration = Configuration.initial program input := by
  have noForeign : program.foreignInput? input = none :=
    foreignInput?_eq_none fun symbol mem => (letters symbol mem).1
  obtain ⟨noRefused, views⟩ :=
    seed_fresh program wellFormed.tapes_pos fun symbol mem => (letters symbol mem).2
  have sound : ((ofProgram program).start input).1.Sound program :=
    (sound_ofProgram wellFormed).start wellFormed input
  have started : (ofProgram program).start input =
      ({ ofProgram program with
          tapes := (seed (ofProgram program).tapes input).1
          status := .running },
        .ok .advanced) := by
    unfold Machine.start
    rw [show (ofProgram program).program = program from rfl, noForeign]
    dsimp only
    rw [← Prod.eta (seed (ofProgram program).tapes input), noRefused]
    rfl
  rw [started] at sound
  refine ⟨_, started, ⟨sound, rfl, wellFormed.initial_not_accepting⟩, ?_⟩
  rw [configuration, views]
  rfl

/-! ### Runs -/

/-- A machine that has halted, where the textbook machine has stopped. -/
structure Stopped (program : Program) (machine : Machine) : Prop where
  halted : ∃ halt, machine.status = .halted halt
  final : Final program machine.configuration

/-- As long as it is live a machine makes the steps of the textbook machine, and then it rests where
    that one has stopped. -/
theorem Live.within_stepTimes (live : Live program machine) (wellFormed : program.WellFormed)
    (count : Nat) :
    Within program count machine.configuration (stepTimes count machine).configuration ∧
      (Live program (stepTimes count machine) ∨ Stopped program (stepTimes count machine)) := by
  induction count with
  | zero =>
      refine ⟨⟨0, Nat.le_refl 0, .zero _, fun impossible => ?_⟩, Or.inl live⟩
      exact absurd impossible (Nat.lt_irrefl 0)
  | succ count ih =>
      obtain ⟨steps, before⟩ := ih
      rw [stepTimes_succ]
      rcases before with live | stopped
      · have refines := step_refines wellFormed live
        have outcome := (stepTimes count machine).step_outcome
        cases result : (stepTimes count machine).step.2 with
        | advanced =>
            rw [result] at refines
            exact ⟨steps.succ (Or.inl refines.1), Or.inl refines.2⟩
        | halted halt =>
            rw [result] at refines outcome
            cases halt with
            | accepted =>
                refine ⟨steps.succ (Or.inl refines.1), Or.inr ⟨⟨_, outcome.status_eq⟩, ?_⟩⟩
                exact Or.inl refines.2
            | rejected reason =>
                have final : Final program (stepTimes count machine).configuration :=
                  Or.inr refines.2
                refine ⟨steps.succ (Or.inr ⟨refines.1, final⟩), Or.inr ⟨⟨_, outcome.status_eq⟩, ?_⟩⟩
                rw [refines.1]
                exact final
      · obtain ⟨halt, halted⟩ := stopped.halted
        rw [step_of_halted halted]
        exact ⟨steps.succ (Or.inr ⟨rfl, stopped.final⟩), Or.inr stopped⟩

/-- How a live machine halts is how the textbook machine stops. -/
theorem Live.stops_of_haltsAfter (live : Live program machine) (wellFormed : program.WellFormed)
    {count : Nat} {halt : Halt} (halts : machine.HaltsAfter count halt) :
    ∃ taken last, After program taken machine.configuration last ∧ Final program last ∧
      (program.stateAt last.state).accepting = halt.isAccepted := by
  induction count generalizing machine with
  | zero =>
      have refines := step_refines wellFormed live
      rw [haltsAfter_zero_iff.1 halts] at refines
      cases halt with
      | accepted =>
          exact ⟨1, _, .succ (.zero _) refines.1, Or.inl refines.2, refines.2⟩
      | rejected reason => exact ⟨0, _, .zero _, Or.inr refines.2, live.running⟩
  | succ count ih =>
      obtain ⟨advances, rest⟩ := haltsAfter_succ_iff.1 halts
      have refines := step_refines wellFormed live
      rw [advances] at refines
      obtain ⟨taken, last, steps, final, accepting⟩ := ih refines.2 rest
      exact ⟨taken + 1, last, steps.head refines.1, final, accepting⟩

/-- While a live machine does not halt, the textbook machine makes every number of steps. -/
theorem Live.after_of_forall_not_haltsAfter (live : Live program machine)
    (wellFormed : program.WellFormed) (endless : ∀ count halt, ¬ machine.HaltsAfter count halt)
    (count : Nat) : ∃ last, After program count machine.configuration last := by
  induction count generalizing machine with
  | zero => exact ⟨_, .zero _⟩
  | succ count ih =>
      have refines := step_refines wellFormed live
      cases result : machine.step.2 with
      | halted halt => exact absurd (haltsAfter_zero_iff.2 result) (endless 0 halt)
      | advanced =>
          rw [result] at refines
          have later : ∀ count halt, ¬ machine.step.1.HaltsAfter count halt := by
            intro count halt halts
            exact endless (count + 1) halt (haltsAfter_succ_iff.2 ⟨result, halts⟩)
          obtain ⟨last, steps⟩ := ih refines.2 later
          exact ⟨last, steps.head refines.1⟩

/-- A live machine halts exactly if the textbook machine stops, and with the same answer. -/
theorem Live.halts_iff (live : Live program machine) (wellFormed : program.WellFormed)
    (answer : Bool) :
    (∃ count halt, machine.HaltsAfter count halt ∧ halt.isAccepted = answer) ↔
      ∃ taken last, After program taken machine.configuration last ∧ Final program last ∧
        (program.stateAt last.state).accepting = answer := by
  constructor
  · intro given
    rcases given with ⟨count, halt, halts, rfl⟩
    exact live.stops_of_haltsAfter wellFormed halts
  · intro given
    rcases given with ⟨taken, last, steps, final, rfl⟩
    -- If the machine did not halt, the textbook machine could leave where it has stopped.
    by_cases endless : ∀ count halt, ¬ machine.HaltsAfter count halt
    · obtain ⟨later, path⟩ := live.after_of_forall_not_haltsAfter wellFormed endless (taken + 1)
      obtain ⟨next, more⟩ := steps.exists_next path (Nat.lt_succ_self taken)
      exact absurd more (final.not_next next)
    · simp only [not_forall, not_not] at endless
      obtain ⟨count, halt, halts⟩ := endless
      obtain ⟨_, other, path, otherFinal, answers⟩ := live.stops_of_haltsAfter wellFormed halts
      obtain rfl := final_unique steps final path otherFinal
      exact ⟨count, halt, halts, answers.symm⟩

/-- A live machine never halts exactly if the textbook machine can always make another step. -/
theorem Live.endless_iff (live : Live program machine) (wellFormed : program.WellFormed) :
    (∀ count halt, ¬ machine.HaltsAfter count halt) ↔
      ∀ count, ∃ last, After program count machine.configuration last := by
  constructor
  · intro endless count
    exact live.after_of_forall_not_haltsAfter wellFormed endless count
  · intro paths count halt halts
    obtain ⟨taken, last, steps, final, -⟩ := live.stops_of_haltsAfter wellFormed halts
    obtain ⟨later, path⟩ := paths (taken + 1)
    obtain ⟨next, more⟩ := steps.exists_next path (Nat.lt_succ_self taken)
    exact final.not_next next more

section Run

variable {next : Machine} {input : List Char}

theorem run_answers_iff (started : machine.start input = (next, .ok .advanced)) (answer : Bool) :
    (∃ limit run, machine.run limit input = some run ∧ run.result = .ok answer) ↔
      ∃ count halt, next.HaltsAfter count halt ∧ halt.isAccepted = answer := by
  simp only [run_eq_some_iff started]
  constructor
  · intro given
    rcases given with ⟨limit, run, ⟨count, -, halt, halts, rfl⟩, result⟩
    exact ⟨count, halt, halts, Except.ok.inj result⟩
  · intro given
    rcases given with ⟨count, halt, halts, rfl⟩
    exact ⟨count + 1, _, ⟨count, Nat.lt_succ_self count, halt, halts, rfl⟩, rfl⟩

theorem run_endless_iff (started : machine.start input = (next, .ok .advanced)) :
    (∀ limit, machine.run limit input = none) ↔ ∀ count halt, ¬ next.HaltsAfter count halt := by
  constructor
  · intro endless count halt halts
    have found := (run_eq_some_iff started).2 ⟨count, Nat.lt_succ_self count, halt, halts, rfl⟩
    rw [endless] at found
    cases found
  · intro endless limit
    rw [Option.eq_none_iff_forall_ne_some]
    intro run found
    obtain ⟨count, -, halt, halts, -⟩ := (run_eq_some_iff started).1 found
    exact endless count halt halts

/-- A run that has come to an end has an answer. -/
theorem exists_answer (started : machine.start input = (next, .ok .advanced)) {limit : Nat}
    {run : Run} (found : machine.run limit input = some run) :
    ∃ answer, run.result = .ok answer := by
  obtain ⟨count, -, halt, -, rfl⟩ := (run_eq_some_iff started).1 found
  exact ⟨halt.isAccepted, rfl⟩

end Run

/-- On a word over both alphabets a machine is the textbook machine of its program: after any number
    of steps it stands in the configuration which that one has reached by then, and a run accepts,
    rejects or never ends as that one does. A run that ends ends in no error. -/
theorem machine_refines_textbook {declarations : Declarations} {program : Program}
    (built : declarations.build = .ok program) {input : List Char}
    (letters : ∀ symbol ∈ input, symbol ∈ program.inputAlphabet ∧ symbol ∈ program.tapeAlphabet) :
    ((ofProgram program).start input).2 = .ok .advanced ∧
      (∀ count configuration,
        Within program count (Configuration.initial program input) configuration ↔
          configuration = (stepTimes count ((ofProgram program).start input).1).configuration) ∧
      ((∃ limit run, (ofProgram program).run limit input = some run ∧ run.result = .ok true) ↔
        Accepts program input) ∧
      ((∃ limit run, (ofProgram program).run limit input = some run ∧ run.result = .ok false) ↔
        Rejects program input) ∧
      ((∀ limit, (ofProgram program).run limit input = none) ↔
        ∀ count, ∃ last, After program count (Configuration.initial program input) last) ∧
      ∀ limit run, (ofProgram program).run limit input = some run →
        ∃ answer, run.result = .ok answer := by
  have wellFormed : program.WellFormed := wellFormed_of_build built
  obtain ⟨next, started, live, stands⟩ := start_refines wellFormed letters
  rw [accepts_iff_final, rejects_iff_final, run_answers_iff started, run_answers_iff started,
    run_endless_iff started, live.halts_iff wellFormed, live.halts_iff wellFormed,
    live.endless_iff wellFormed, started, stands]
  refine ⟨rfl, ?_, Iff.rfl, Iff.rfl, Iff.rfl, fun limit run found => exists_answer started found⟩
  intro count configuration
  have steps := (live.within_stepTimes wellFormed count).1
  rw [stands] at steps
  constructor
  · intro other
    exact within_unique other steps
  · intro same
    subst same
    exact steps

/-- The marker runs over two zeros and accepts, and so does the textbook machine, which stands after
    three steps where the marker stands. -/
theorem marker_refines_textbook :
    Declarations.marker.build = .ok Declarations.marker.program ∧
      (∀ symbol ∈ ['0', '0'], symbol ∈ Declarations.marker.program.inputAlphabet ∧
        symbol ∈ Declarations.marker.program.tapeAlphabet) ∧
      Within Declarations.marker.program 3
        (Configuration.initial Declarations.marker.program ['0', '0'])
        (stepTimes 3 ((ofProgram Declarations.marker.program).start ['0', '0']).1).configuration ∧
      Accepts Declarations.marker.program ['0', '0'] := by
  have letters : ∀ symbol ∈ ['0', '0'], symbol ∈ Declarations.marker.program.inputAlphabet ∧
      symbol ∈ Declarations.marker.program.tapeAlphabet := by
    intro symbol mem
    obtain rfl : symbol = '0' := by simpa using mem
    exact ⟨Alphabet.contains_iff.1 rfl, Alphabet.contains_iff.1 rfl⟩
  obtain ⟨-, stands, accepts, -⟩ := machine_refines_textbook Declarations.marker_build letters
  exact ⟨Declarations.marker_build, letters, (stands 3 _).2 rfl, accepts.1 ⟨6, _, rfl, rfl⟩⟩

end Machine

end Multitape
