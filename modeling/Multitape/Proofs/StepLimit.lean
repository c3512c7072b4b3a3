/-
Module: Multitape.Proofs.StepLimit
Purpose: The limit of an evaluation is exact. It is compared with the rules taken before every step, so a
  run that accepts with its last rule may take as many rules as the limit says, and one that is
  rejected, which takes a step more than rules, must take fewer. In every other case the evaluation is
  given up after exactly so many rules.
Main exports: Machine.Finishes, finishes_iff, Finishes.unique, LimitExact, limitExact_of_evaluate,
  isSome_evaluate, evaluate_raise, step_limit_exact
-/
import Multitape.Proofs.Erasure
import Multitape.Proofs.EvaluationLoop

namespace Multitape

/-! ### Runs without a limit -/

namespace Machine

/-- The run of an input comes to its end after a number of rules, with a halt. -/
def Finishes (machine : Machine) (input : List Char) (taken : Nat) (halt : Halt) : Prop :=
  ∃ limit run, machine.run limit input = some run ∧ run.final.stepCount = taken ∧
    run.final.halt? = some halt

/-- The run of a loaded input comes to its end with the step that halts the machine. -/
theorem finishes_iff {machine next : Machine} {input : List Char} {taken : Nat} {halt : Halt}
    (unused : machine.stepCount = 0) (started : machine.start input = (next, .ok .advanced)) :
    machine.Finishes input taken halt ↔
      ∃ count, next.HaltsAfter count halt ∧ taken = rulesTaken count halt := by
  have live : next.halt? = none := unhalted_of_started started
  have fresh : next.stepCount = 0 := stepCount_of_started unused started
  have final : ∀ {count other}, next.HaltsAfter count other →
      (stepTimes (count + 1) next).halt? = some other ∧
        (stepTimes (count + 1) next).stepCount = rulesTaken count other := by
    intro count other halts
    obtain ⟨status, counted⟩ := halts.last_step live
    rw [counted, fresh, Nat.zero_add, halt?, status]
    exact ⟨rfl, rfl⟩
  constructor
  · intro given
    rcases given with ⟨limit, run, found, counted, halted⟩
    obtain ⟨count, -, other, halts, rfl⟩ := (run_eq_some_iff started).1 found
    obtain ⟨otherHalted, otherCounted⟩ := final halts
    obtain rfl := Option.some.inj (otherHalted.symm.trans halted)
    exact ⟨count, halts, counted.symm.trans otherCounted⟩
  · intro given
    rcases given with ⟨count, halts, rfl⟩
    obtain ⟨halted, counted⟩ := final halts
    exact ⟨count + 1, _, (run_eq_some_iff started).2 ⟨count, Nat.lt_succ_self count, halt, halts, rfl⟩,
      counted, halted⟩

/-- The run of a loaded input ends in one way. -/
theorem Finishes.unique {machine : Machine} {input : List Char} {taken other : Nat}
    {halt otherHalt : Halt} (unused : machine.stepCount = 0)
    (loaded : (machine.start input).2 = .ok .advanced) (one : machine.Finishes input taken halt)
    (two : machine.Finishes input other otherHalt) : other = taken ∧ otherHalt = halt := by
  have started : machine.start input = (_, .ok .advanced) := Prod.ext rfl loaded
  obtain ⟨count, halts, rfl⟩ := (finishes_iff unused started).1 one
  obtain ⟨otherCount, otherHalts, rfl⟩ := (finishes_iff unused started).1 two
  obtain ⟨rfl, rfl⟩ := otherHalts.unique halts
  exact ⟨rfl, rfl⟩

/-- Without a loaded input a run ends in a halt only because of a foreign symbol. -/
theorem Finishes.foreign {machine : Machine} {input : List Char} {taken : Nat} {halt : Halt}
    (finishes : machine.Finishes input taken halt)
    (notLoaded : (machine.start input).2 ≠ .ok .advanced) :
    ∃ symbol, halt = .rejected (.foreignInput symbol) := by
  obtain ⟨limit, run, found, -, halted⟩ := finishes
  obtain ⟨other, otherFound, -, final⟩ := exists_run_of_not_loaded notLoaded limit
  obtain rfl := Option.some.inj (found.symm.trans otherFound)
  rw [final, start_halt?] at halted
  split at halted
  · rename_i other answered
    obtain rfl := Option.some.inj halted
    exact foreign_of_start_halted answered
  · cases halted

end Machine

namespace CommandLine

open Machine

variable {program : Program} {trace : Bool} {fuel limit : Nat} {input : List Char}
  {evaluation : Evaluation}

/-! ### With a limit -/

/-- What a limit makes of the evaluation of an input, compared with the run of a fresh machine. -/
structure LimitExact (program : Program) (input : List Char) (limit : Nat)
    (evaluation : Evaluation) : Prop where
  faulty : ∀ error, ((ofProgram program).start input).2 = .error error →
    evaluation.result = .error error
  refused : ∀ halt, ((ofProgram program).start input).2 = .ok (.halted halt) →
    (∃ symbol, halt = .rejected (.foreignInput symbol)) ∧ evaluation.result = .ok (.halted halt)
  accepted : ∀ taken, (ofProgram program).Finishes input taken .accepted → taken ≤ limit →
    evaluation.result = .ok (.halted .accepted)
  stuck : ∀ taken state symbols,
    (ofProgram program).Finishes input taken (.rejected (.stuck state symbols)) → taken < limit →
      evaluation.result = .ok (.halted (.rejected (.stuck state symbols)))
  gaveUp : ∀ loaded, (ofProgram program).start input = (loaded, .ok .advanced) →
    (∀ taken, (ofProgram program).Finishes input taken .accepted → limit < taken) →
    (∀ taken state symbols,
      (ofProgram program).Finishes input taken (.rejected (.stuck state symbols)) → limit ≤ taken) →
      evaluation.result = .ok (.gaveUp limit) ∧ evaluation.final = stepTimes limit loaded ∧
        evaluation.final.stepCount = limit
  within : evaluation.final.stepCount ≤ limit

/-- An input that could not be loaded is not given up, and no rule is taken for it. -/
theorem Unloaded.limitExact (notLoaded : ((ofProgram program).start input).2 ≠ .ok .advanced)
    (unloaded : Unloaded trace (ofProgram program) input evaluation) :
    LimitExact program input limit evaluation where
  faulty := unloaded.of_error
  refused := fun halt halted => ⟨foreign_of_start_halted halted, unloaded.of_halted halt halted⟩
  accepted := fun taken finishes => by
    obtain ⟨symbol, impossible⟩ := finishes.foreign notLoaded
    cases impossible
  stuck := fun taken state symbols finishes => by
    obtain ⟨symbol, impossible⟩ := finishes.foreign notLoaded
    cases impossible
  gaveUp := fun loaded started => by
    rw [started] at notLoaded
    exact absurd rfl notLoaded
  within := by
    rw [unloaded.final_eq, start_stepCount]
    exact Nat.zero_le limit

section Loaded

variable {next : Machine}

/-- A halt that comes before the step of the limit is the answer. -/
theorem limitExact_of_haltsAfter {count : Nat} {halt : Halt} {printed : List String}
    (started : (ofProgram program).start input = (next, .ok .advanced))
    (halts : next.HaltsAfter count halt) (within : count < limit) :
    LimitExact program input limit (haltedEvaluation trace printed next count halt) := by
  have finishes : (ofProgram program).Finishes input (rulesTaken count halt) halt :=
    (finishes_iff rfl started).2 ⟨count, halts, rfl⟩
  have loaded : ((ofProgram program).start input).2 = .ok .advanced := congrArg Prod.snd started
  have unused : next.stepCount = 0 := stepCount_of_started rfl started
  have live : next.halt? = none := unhalted_of_started started
  refine
    { faulty := fun error answered => by
        rw [started] at answered
        cases answered
      refused := fun halt answered => by
        rw [started] at answered
        cases answered
      accepted := fun taken other _ => by
        rw [(finishes.unique rfl loaded other).2]
        rfl
      stuck := fun taken state symbols other _ => by
        rw [(finishes.unique rfl loaded other).2]
        rfl
      gaveUp := fun loaded _ later endless => ?_
      within := ?_ }
  · rcases halts.accepted_or_stuck live with rfl | ⟨state, symbols, rfl⟩
    · exact absurd (later _ finishes) (Nat.not_lt.2 (Nat.succ_le_of_lt within))
    · exact absurd (endless _ state symbols finishes) (Nat.not_le.2 within)
  · have counted := (halts.last_step live).2
    rw [unused, Nat.zero_add] at counted
    show (stepTimes (count + 1) next).stepCount ≤ limit
    rw [counted, rulesTaken]
    split
    · exact within
    · exact Nat.le_of_lt within

/-- If the machine advances as often as the limit says, the evaluation is given up there. -/
theorem limitExact_of_advances {printed : List String}
    (started : (ofProgram program).start input = (next, .ok .advanced))
    (advances : next.Advances limit) :
    LimitExact program input limit (stoppedEvaluation trace printed next limit) := by
  have later : ∀ {taken halt}, (ofProgram program).Finishes input taken halt →
      ∃ count, limit ≤ count ∧ taken = rulesTaken count halt := by
    intro taken halt finishes
    obtain ⟨count, halts, rfl⟩ := (finishes_iff rfl started).1 finishes
    exact ⟨count, Nat.le_of_not_lt fun before => halts.not_advances before advances, rfl⟩
  have counted : (stepTimes limit next).stepCount = limit := by
    rw [advances.stepCount, stepCount_of_started rfl started, Nat.zero_add]
  refine
    { faulty := fun error answered => by
        rw [started] at answered
        cases answered
      refused := fun halt answered => by
        rw [started] at answered
        cases answered
      accepted := fun taken finishes within => ?_
      stuck := fun taken state symbols finishes within => ?_
      gaveUp := fun loaded same _ _ => ?_
      within := Nat.le_of_eq counted }
  · obtain ⟨count, below, rfl⟩ := later finishes
    exact absurd within (Nat.not_le.2 (Nat.lt_succ_of_le below))
  · obtain ⟨count, below, rfl⟩ := later finishes
    exact absurd within (Nat.not_lt.2 below)
  · obtain rfl := (Prod.mk.inj (started.symm.trans same)).1
    exact ⟨congrArg (fun steps => Except.ok (Outcome.gaveUp steps)) counted, rfl, counted⟩

end Loaded

/-- Whatever an evaluation with a limit answers is exact. -/
theorem limitExact_of_evaluate
    (found : evaluate trace fuel (some limit) (ofProgram program) input = some evaluation) :
    LimitExact program input limit evaluation := by
  by_cases loaded : ((ofProgram program).start input).2 = .ok .advanced
  · have started : (ofProgram program).start input = (_, .ok .advanced) := Prod.ext rfl loaded
    rw [evaluate_some_eq_some_iff rfl started] at found
    rcases found with ⟨count, -, within, halt, halts, rfl⟩ | ⟨-, advances, rfl⟩
    · exact limitExact_of_haltsAfter started halts within
    · exact limitExact_of_advances started advances
  · obtain ⟨other, unloaded, answers⟩ := exists_unloaded loaded trace
    obtain rfl := Option.some.inj (found.symm.trans (answers fuel (some limit)))
    exact unloaded.limitExact loaded

/-- An evaluation with a limit always comes to an end. -/
theorem isSome_evaluate (enough : limit < fuel) :
    (evaluate trace fuel (some limit) (ofProgram program) input).isSome = true := by
  rw [Option.isSome_iff_exists]
  by_cases loaded : ((ofProgram program).start input).2 = .ok .advanced
  · have started : (ofProgram program).start input = (_, .ok .advanced) := Prod.ext rfl loaded
    simp only [evaluate_some_eq_some_iff rfl started]
    rcases haltsWithin_or_advances ((ofProgram program).start input).1 limit with
      ⟨count, within, halt, halts⟩ | advances
    · exact ⟨_, Or.inl ⟨count, Nat.lt_trans within enough, within, halt, halts, rfl⟩⟩
    · exact ⟨_, Or.inr ⟨enough, advances, rfl⟩⟩
  · obtain ⟨evaluation, -, answers⟩ := exists_unloaded loaded trace
    exact ⟨evaluation, answers fuel (some limit)⟩

/-- A halt within a limit is the answer within every higher one. -/
theorem evaluate_raise {higher : Nat} {halt : Halt} (raised : limit ≤ higher)
    (found : evaluate trace fuel (some limit) (ofProgram program) input = some evaluation)
    (halted : evaluation.result = .ok (.halted halt)) :
    evaluate trace fuel (some higher) (ofProgram program) input = some evaluation := by
  by_cases loaded : ((ofProgram program).start input).2 = .ok .advanced
  · have started : (ofProgram program).start input = (_, .ok .advanced) := Prod.ext rfl loaded
    rw [evaluate_some_eq_some_iff rfl started] at found ⊢
    rcases found with ⟨count, below, within, rest⟩ | ⟨-, -, rfl⟩
    · exact Or.inl ⟨count, below, Nat.lt_of_lt_of_le within raised, rest⟩
    · cases halted
  · obtain ⟨other, -, answers⟩ := exists_unloaded loaded trace
    rw [answers] at found ⊢
    exact found

/-- The limit of an evaluation is exact. On a fresh or just reset machine of a built program an evaluation
    with a limit comes to an end, and its answer is the one that the unbounded run of the input and the
    limit determine: the fault or the rejection of the start; acceptance, if the run accepts after no
    more rules than the limit says; a rejection, if the run is rejected after fewer; or else that it was
    given up, after exactly so many rules. Raising the limit changes no halt, and without a limit the
    evaluation is the run. -/
theorem step_limit_exact {declarations : Declarations} {program : Program} {machine : Machine}
    (built : declarations.build = .ok program) (ready : Ready program machine) (trace : Bool)
    (input : List Char) :
    (∀ limit fuel, limit < fuel → (evaluate trace fuel (some limit) machine input).isSome = true) ∧
      (∀ limit fuel evaluation,
        evaluate trace fuel (some limit) machine input = some evaluation →
          LimitExact program input limit evaluation) ∧
      (∀ limit higher fuel evaluation halt, limit ≤ higher →
        evaluate trace fuel (some limit) machine input = some evaluation →
        evaluation.result = .ok (.halted halt) →
          evaluate trace fuel (some higher) machine input = some evaluation) ∧
      ∀ fuel, Option.Rel (Agrees trace) ((ofProgram program).run fuel input)
        (evaluate trace fuel none machine input) := by
  have wellFormed : program.WellFormed := wellFormed_of_build built
  obtain rfl := ready.eq_ofProgram wellFormed
  refine ⟨fun limit fuel enough => isSome_evaluate enough,
    fun limit fuel evaluation found => limitExact_of_evaluate found, ?_, ?_⟩
  · intro limit higher fuel evaluation halt raised found halted
    exact evaluate_raise raised found halted
  · intro fuel
    exact evaluate_none_agrees trace fuel (ofProgram program) input

/-- The marker takes four rules to accept "0". With a limit of four it accepts, with one of three it is
    given up after three. -/
theorem step_limit_exact_for_resetMarker :
    Declarations.marker.build = .ok Declarations.marker.program ∧
      Ready Declarations.marker.program resetMarker ∧
      (ofProgram Declarations.marker.program).Finishes ['0'] 4 .accepted ∧
      (∃ evaluation, evaluate true 5 (some 4) resetMarker ['0'] = some evaluation ∧
        evaluation.result = .ok (.halted .accepted)) ∧
      ∃ evaluation, evaluate true 4 (some 3) resetMarker ['0'] = some evaluation ∧
        evaluation.result = .ok (.gaveUp 3) := by
  have finishes : (ofProgram Declarations.marker.program).Finishes ['0'] 4 .accepted :=
    ⟨20, _, rfl, rfl, rfl⟩
  obtain ⟨total, determined, -, -⟩ :=
    step_limit_exact Declarations.marker_build ready_resetMarker true ['0']
  refine ⟨Declarations.marker_build, ready_resetMarker, finishes, ?_, ?_⟩
  · obtain ⟨evaluation, found⟩ := Option.isSome_iff_exists.1 (total 4 5 (Nat.lt_succ_self 4))
    exact ⟨evaluation, found, (determined 4 5 evaluation found).accepted 4 finishes (Nat.le_refl 4)⟩
  · obtain ⟨evaluation, found⟩ := Option.isSome_iff_exists.1 (total 3 4 (Nat.lt_succ_self 3))
    refine ⟨evaluation, found, ((determined 3 4 evaluation found).gaveUp _ rfl ?_ ?_).1⟩
    · intro taken other
      rw [(finishes.unique rfl rfl other).1]
      exact Nat.lt_succ_self 3
    · intro taken state symbols other
      cases (finishes.unique rfl rfl other).2

end CommandLine

end Multitape
