/-
Module: Multitape.Proofs.Observation
Purpose: An observer of a run and a trace are shown the same configurations: those that the steps from the
  loaded input lead through, one for each number of rules, from none to all of them. The step that
  accepts is shown and the step that finds no rule is not, so there is always one configuration more
  than rules; a limit cuts the trace off after one configuration more than the rules that it allows.
Main exports: Machine.course, Machine.Observed, observed_of_run, Traced, traced_of_evaluate,
  trace_shows_observations
-/
import Multitape.Proofs.StepLimit

namespace Multitape

namespace Machine

variable {machine next : Machine} {input : List Char} {count : Nat} {halt : Halt}

/-! ### Courses -/

/-- The configurations that a number of steps leads through, the first one included. -/
def course (count : Nat) (machine : Machine) : List Machine :=
  (List.range (count + 1)).map fun earlier => stepTimes earlier machine

theorem course_eq_cons (count : Nat) (machine : Machine) :
    machine.course count = machine :: CommandLine.stepsOf count machine := by
  rw [course, List.range_succ_eq_map, List.map_cons, List.map_map]
  rfl

/-- What is seen of a run that halts is its course, as far as it takes rules. -/
theorem cons_seen_haltedRun (count : Nat) (halt : Halt) (machine : Machine) :
    machine :: (machine.haltedRun count halt).seen = machine.course (rulesTaken count halt) := by
  rw [course_eq_cons]
  rfl

/-- The configurations of a run are numbered by the rules taken, so that none is seen twice. -/
theorem HaltsAfter.map_stepCount_course (live : machine.halt? = none) (unused : machine.stepCount = 0)
    (halts : machine.HaltsAfter count halt) :
    (machine.course (rulesTaken count halt)).map stepCount =
      List.range (rulesTaken count halt + 1) := by
  have advances : machine.Advances count := halts.advances
  have numbered : ∀ earlier ∈ List.range (rulesTaken count halt + 1),
      (stepTimes earlier machine).stepCount = id earlier := by
    intro earlier mem
    have below : earlier ≤ rulesTaken count halt := Nat.lt_succ_iff.1 (List.mem_range.1 mem)
    rcases Nat.lt_or_ge count earlier with after | before
    · -- After the steps that advance, only the one that accepts takes a rule.
      have last : earlier = rulesTaken count halt ∧ earlier = count + 1 := by
        have bound := rulesTaken_le count halt
        omega
      rw [last.2, (halts.last_step live).2, unused, ← last.1, last.2, Nat.zero_add, id]
    · rw [(advances.mono before).stepCount, unused, Nat.zero_add, id]
  calc (machine.course (rulesTaken count halt)).map stepCount
      = (List.range (rulesTaken count halt + 1)).map fun earlier =>
          (stepTimes earlier machine).stepCount := List.map_map
    _ = (List.range (rulesTaken count halt + 1)).map id := List.map_congr_left numbered
    _ = List.range (rulesTaken count halt + 1) := List.map_id _

/-- After all its rules and one more step a machine is as its run leaves it: an accepting machine rests. -/
theorem HaltsAfter.stepTimes_rulesTaken (live : machine.halt? = none)
    (halts : machine.HaltsAfter count halt) :
    stepTimes (rulesTaken count halt + 1) machine = stepTimes (count + 1) machine := by
  cases halt with
  | rejected reason => rfl
  | accepted =>
      have rests := step_of_halted (halts.last_step live).1
      rw [rulesTaken, Halt.isAccepted, if_pos rfl, stepTimes_succ (count + 1), rests]

/-! ### Runs -/

/-- What a run shows and answers that has come to its end on a loaded input: an observer is shown the
    configurations after no rule, after one, and so on up to the last; the machine is left as the step
    after these leaves it, halted; and the answer is whether it has accepted. -/
structure Observed (loaded : Machine) (run : Run) : Prop where
  seen_eq : run.seen = loaded.course run.final.stepCount
  counted : run.seen.map stepCount = List.range (run.final.stepCount + 1)
  final_eq : run.final = stepTimes (run.final.stepCount + 1) loaded
  halted : ∃ halt, run.final.halt? = some halt
  answered : ∃ accepted, run.result = .ok accepted ∧
    (accepted = true ↔ run.final.halt? = some .accepted)

theorem observed_of_haltsAfter (live : machine.halt? = none) (unused : machine.stepCount = 0)
    (halts : machine.HaltsAfter count halt) :
    machine.Observed
      { machine.haltedRun count halt with seen := machine :: (machine.haltedRun count halt).seen } := by
  obtain ⟨status, taken⟩ := halts.last_step live
  rw [unused, Nat.zero_add] at taken
  have halted : (stepTimes (count + 1) machine).halt? = some halt := by rw [halt?, status]
  have seen := cons_seen_haltedRun count halt machine
  refine
    { seen_eq := ?_
      counted := ?_
      final_eq := ?_
      halted := ⟨halt, halted⟩
      answered := ⟨halt.isAccepted, rfl, ?_⟩ }
  · show machine :: (machine.haltedRun count halt).seen =
      machine.course (stepTimes (count + 1) machine).stepCount
    rw [taken, seen]
  · show (machine :: (machine.haltedRun count halt).seen).map stepCount =
      List.range ((stepTimes (count + 1) machine).stepCount + 1)
    rw [taken, seen, halts.map_stepCount_course live unused]
  · show stepTimes (count + 1) machine =
      stepTimes ((stepTimes (count + 1) machine).stepCount + 1) machine
    rw [taken, halts.stepTimes_rulesTaken live]
  · show halt.isAccepted = true ↔ (stepTimes (count + 1) machine).halt? = some .accepted
    rw [halted]
    cases halt <;> simp [Halt.isAccepted]

/-- A run of an input that has been loaded into a machine that has taken no rule. -/
theorem observed_of_run {fuel : Nat} {run : Run} (unused : machine.stepCount = 0)
    (started : machine.start input = (next, .ok .advanced)) (found : machine.run fuel input = some run) :
    next.Observed run := by
  obtain ⟨count, -, halt, halts, rfl⟩ := (run_eq_some_iff started).1 found
  exact observed_of_haltsAfter (unhalted_of_started started) (stepCount_of_started unused started) halts

end Machine

namespace CommandLine

open Machine

variable {machine next : Machine} {input : List Char} {fuel limit count : Nat} {halt : Halt}
  {evaluation : Evaluation}

/-! ### Traces -/

/-- The trace of some configurations: the header, and a row for each. -/
def traceOf (machines : List Machine) : List String := traceHeader :: traceRows machines

theorem printed_haltedEvaluation (next : Machine) (count : Nat) (halt : Halt) :
    (haltedEvaluation true (printRow true next (openingLines true)) next count halt).printed =
      traceOf (next.course (rulesTaken count halt)) := by
  rw [haltedEvaluation, reverse_printRow_append, cons_seen_haltedRun]
  rfl

theorem printed_stoppedEvaluation (next : Machine) (count : Nat) :
    (stoppedEvaluation true (printRow true next (openingLines true)) next count).printed =
      traceOf (next.course count) := by
  rw [stoppedEvaluation, reverse_printRow_append, course_eq_cons]
  rfl

/-- What a trace with a limit shows, compared with the run of the input: the same configurations, but not
    more than one for each rule that the limit allows, and the first one. -/
structure Traced (machine : Machine) (input : List Char) (limit : Nat) (printed : List String) :
    Prop where
  unloaded : (machine.start input).2 ≠ .ok .advanced → printed = traceOf []
  ended : ∀ loaded taken halt, machine.start input = (loaded, .ok .advanced) →
    machine.Finishes input taken halt → printed = traceOf (loaded.course (min taken limit))
  endless : ∀ loaded, machine.start input = (loaded, .ok .advanced) →
    (∀ taken halt, ¬ machine.Finishes input taken halt) → printed = traceOf (loaded.course limit)

/-- If the limit allows all rules, the trace goes to the configuration in which the machine halts. -/
theorem traced_haltedEvaluation (unused : machine.stepCount = 0)
    (started : machine.start input = (next, .ok .advanced)) (halts : next.HaltsAfter count halt)
    (within : count < limit) :
    Traced machine input limit
      (haltedEvaluation true (printRow true next (openingLines true)) next count halt).printed := by
  have loaded : (machine.start input).2 = .ok .advanced := congrArg Prod.snd started
  have finishes : machine.Finishes input (rulesTaken count halt) halt :=
    (finishes_iff unused started).2 ⟨count, halts, rfl⟩
  rw [printed_haltedEvaluation]
  refine
    { unloaded := fun notLoaded => absurd loaded notLoaded
      ended := fun other taken last same others => ?_
      endless := fun _ _ never => absurd finishes (never _ _) }
  obtain rfl := (Prod.mk.inj (started.symm.trans same)).1
  have bound : rulesTaken count halt ≤ limit := Nat.le_trans (rulesTaken_le count halt) within
  rw [(finishes.unique unused loaded others).1, Nat.min_eq_left bound]

/-- If the machine advances as often as the limit says, the trace ends there. -/
theorem traced_stoppedEvaluation (unused : machine.stepCount = 0)
    (started : machine.start input = (next, .ok .advanced)) (advances : next.Advances limit) :
    Traced machine input limit
      (stoppedEvaluation true (printRow true next (openingLines true)) next limit).printed := by
  have loaded : (machine.start input).2 = .ok .advanced := congrArg Prod.snd started
  rw [printed_stoppedEvaluation]
  refine
    { unloaded := fun notLoaded => absurd loaded notLoaded
      ended := fun other taken halt same finishes => ?_
      endless := fun other same _ => ?_ }
  · obtain rfl := (Prod.mk.inj (started.symm.trans same)).1
    obtain ⟨count, halts, rfl⟩ := (finishes_iff unused started).1 finishes
    have later : limit ≤ count := Nat.le_of_not_lt fun before => halts.not_advances before advances
    rw [Nat.min_eq_right (Nat.le_trans later (le_rulesTaken count halt))]
  · obtain rfl := (Prod.mk.inj (started.symm.trans same)).1
    rfl

/-- Whatever is printed by an evaluation with a trace and a limit is such a trace. -/
theorem traced_of_evaluate (unused : machine.stepCount = 0)
    (found : evaluate true fuel (some limit) machine input = some evaluation) :
    Traced machine input limit evaluation.printed := by
  by_cases loaded : (machine.start input).2 = .ok .advanced
  · have started : machine.start input = (_, .ok .advanced) := Prod.ext rfl loaded
    rw [evaluate_some_eq_some_iff unused started] at found
    rcases found with ⟨count, -, within, halt, halts, rfl⟩ | ⟨-, advances, rfl⟩
    · exact traced_haltedEvaluation unused started halts within
    · exact traced_stoppedEvaluation unused started advances
  · obtain ⟨other, unloaded, answers⟩ := exists_unloaded loaded true
    obtain rfl := Option.some.inj (found.symm.trans (answers fuel (some limit)))
    refine
      { unloaded := fun _ => unloaded.printed_eq
        ended := fun next taken halt started _ => ?_
        endless := fun next started _ => ?_ }
    · exact absurd (congrArg Prod.snd started) loaded
    · exact absurd (congrArg Prod.snd started) loaded

/-- A run and a trace show the same configurations. On a fresh or just reset machine of a built program,
    the observer of a run that comes to its end is shown the configurations that the steps from the loaded
    input lead through, as many as rules are taken and one more, and it is shown nothing if the input
    could not be loaded. A trace without a limit prints the header and a row for everything that the
    observer is shown; with a limit it comes to an end, and prints the rows up to the one that the limit
    allows, whether the run comes to an end or not. -/
theorem trace_shows_observations {declarations : Declarations} {program : Program} {machine : Machine}
    (built : declarations.build = .ok program) (ready : Ready program machine) (input : List Char) :
    (∀ loaded fuel run, machine.start input = (loaded, .ok .advanced) →
      machine.run fuel input = some run →
        loaded.Observed run ∧ machine.perform (.run fuel input) = run.final) ∧
      ((machine.start input).2 ≠ .ok .advanced → ∀ fuel, ∃ run,
        machine.run fuel input = some run ∧ run.seen = []) ∧
      (∀ fuel, Option.Rel (fun run evaluation => evaluation.printed = traceOf run.seen)
        (machine.run fuel input) (evaluate true fuel none machine input)) ∧
      (∀ limit fuel, limit < fuel →
        (evaluate true fuel (some limit) machine input).isSome = true) ∧
      ∀ limit fuel evaluation, evaluate true fuel (some limit) machine input = some evaluation →
        Traced machine input limit evaluation.printed := by
  have wellFormed : program.WellFormed := wellFormed_of_build built
  obtain rfl := ready.eq_ofProgram wellFormed
  refine ⟨?_, ?_, ?_, fun limit fuel enough => isSome_evaluate enough, ?_⟩
  · intro loaded fuel run started found
    refine ⟨observed_of_run rfl started found, ?_⟩
    rw [perform, found]
    rfl
  · intro notLoaded fuel
    obtain ⟨run, found, seen, -⟩ := exists_run_of_not_loaded notLoaded fuel
    exact ⟨run, found, seen⟩
  · intro fuel
    have agrees := evaluate_none_agrees true fuel (ofProgram program) input
    generalize (ofProgram program).run fuel input = run at agrees ⊢
    generalize evaluate true fuel none (ofProgram program) input = evaluation at agrees ⊢
    cases agrees with
    | none => exact .none
    | some agrees => exact .some agrees.printed_eq
  · intro limit fuel evaluation found
    exact traced_of_evaluate rfl found

/-- The observer of the marker on "0" is shown five configurations, those before and after its four rules,
    and a trace with a limit of two has rows for the first three of them. -/
theorem trace_shows_observations_of_resetMarker :
    Declarations.marker.build = .ok Declarations.marker.program ∧
      Ready Declarations.marker.program resetMarker ∧
      ∃ loaded, resetMarker.start ['0'] = (loaded, .ok .advanced) ∧
        (∃ run, resetMarker.run 5 ['0'] = some run ∧ run.seen = loaded.course 4 ∧
          run.result = .ok true) ∧
        ∃ evaluation, evaluate true 3 (some 2) resetMarker ['0'] = some evaluation ∧
          evaluation.printed = traceOf (loaded.course 2) := by
  obtain ⟨observed, -, -, total, traced⟩ :=
    trace_shows_observations Declarations.marker_build ready_resetMarker ['0']
  have finishes : resetMarker.Finishes ['0'] 4 .accepted := ⟨5, _, rfl, rfl, rfl⟩
  refine ⟨Declarations.marker_build, ready_resetMarker, _, rfl, ?_, ?_⟩
  · exact ⟨_, rfl, (observed _ 5 _ rfl rfl).1.seen_eq, rfl⟩
  · obtain ⟨evaluation, found⟩ := Option.isSome_iff_exists.1 (total 2 3 (Nat.lt_succ_self 2))
    exact ⟨evaluation, found, (traced 2 3 evaluation found).ended _ 4 .accepted rfl finishes⟩

end CommandLine

end Multitape
