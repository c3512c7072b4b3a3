/-
Module: Multitape.Proofs.Lockstep
Purpose: Two machines that make their steps together, each by its own program. Whatever relates them, a
  step is gone through here once and for all: it is enough that they have halted alike, find rules
  together, and are related again by what these do. What a rejection tells may differ from one
  machine to the other.
Main exports: Halt.retell, Step.retell, Status.retell, Machine.InStep, InStep.step,
  related_stepTimes, kept_stepTimes, run_result_eq
-/
import Multitape.Proofs.MachineHistory

namespace Multitape

/-! ### Rejections told otherwise -/

/-- A halt whose rejection is told otherwise. -/
def Halt.retell (tell : Rejection → Rejection) : Halt → Halt
  | accepted => accepted
  | rejected reason => rejected (tell reason)

/-- What came of a step, with its rejection told otherwise. -/
def Step.retell (tell : Rejection → Rejection) : Step → Step
  | advanced => advanced
  | halted halt => halted (halt.retell tell)

/-- A status with its rejection told otherwise. -/
def Status.retell (tell : Rejection → Rejection) : Status → Status
  | idle => idle
  | running => running
  | halted halt => halted (halt.retell tell)

@[simp] theorem Halt.retell_id (halt : Halt) : halt.retell id = halt := by
  cases halt <;> rfl

@[simp] theorem Step.retell_id (step : Step) : step.retell id = step := by
  cases step <;> simp [retell]

@[simp] theorem Status.retell_id (status : Status) : status.retell id = status := by
  cases status <;> simp [retell]

namespace Machine

variable {tell : Rejection → Rejection} {first second : Machine}

theorem halt?_of_status_eq (same : second.status = first.status.retell tell) :
    second.halt? = first.halt?.map (Halt.retell tell) := by
  unfold halt?
  rw [same]
  cases first.status <;> rfl

/-! ### One step of both -/

/-- Two machines are about to step together: what is kept holds of them as they are, they have halted
    alike, and if they have not, they find no rule for reasons that are told alike, or rules that lead to
    states of which both or neither accept; and what is kept holds again of what comes of that. -/
structure InStep (tell : Rejection → Rejection) (Kept : Machine → Machine → Prop)
    (first second : Machine) : Prop where
  kept : Kept first second
  status_eq : second.status = first.status.retell tell
  stuck : first.halt? = none → first.nextRule? = none →
    second.stuckHalt = first.stuckHalt.retell tell ∧ ∀ status : Status,
      Kept { first.readTapes with status := status }
        { second.readTapes with status := status.retell tell }
  rules : first.halt? = none → Option.Rel (fun one next =>
    (second.program.stateAt next.target).accepting =
        (first.program.stateAt one.target).accepting ∧ ∀ status : Status,
      Kept { first.readTapes.apply one with status := status }
        { second.readTapes.apply next with status := status.retell tell })
    first.nextRule? second.nextRule?

/-- Both machines step alike: one can do what the other does, and what is kept holds of what they
    become. -/
theorem InStep.step {Kept : Machine → Machine → Prop} (together : InStep tell Kept first second) :
    second.step.2 = first.step.2.retell tell ∧ Kept first.step.1 second.step.1 := by
  have outcome := first.step_outcome
  generalize first.step.1 = next at outcome ⊢
  generalize first.step.2 = result at outcome ⊢
  have live : first.halt? = none → second.halt? = none := by
    intro unhalted
    rw [halt?_of_status_eq together.status_eq, unhalted]
    rfl
  cases outcome with
  | @resting halt halted =>
      have rests : second.status = .halted (halt.retell tell) := by
        rw [together.status_eq, halted]
        rfl
      rw [step_of_halted rests]
      exact ⟨rfl, together.kept⟩
  | stuck unhalted noRule =>
      have related := together.rules unhalted
      obtain ⟨told, kept⟩ := together.stuck unhalted noRule
      rw [noRule] at related
      generalize found : second.nextRule? = next? at related
      cases related with
      | none =>
          rw [(StepOutcome.stuck (live unhalted) found).step_eq, told]
          exact ⟨rfl, kept _⟩
  | accepting unhalted rule accepts =>
      have related := together.rules unhalted
      rw [rule] at related
      generalize found : second.nextRule? = next? at related
      cases related with
      | some both =>
          have accepts := both.1.trans accepts
          rw [(StepOutcome.accepting (live unhalted) found accepts).step_eq]
          exact ⟨rfl, both.2 (.halted .accepted)⟩
  | advancing unhalted rule refuses =>
      have related := together.rules unhalted
      rw [rule] at related
      generalize found : second.nextRule? = next? at related
      cases related with
      | some both =>
          have refuses := both.1.trans refuses
          rw [(StepOutcome.advancing (live unhalted) found refuses).step_eq]
          exact ⟨rfl, both.2 .running⟩

/-! ### Several steps of both -/

/-- What relates two machines after every number of steps, if they go on in step. The relation may depend
    on how many steps were made, and it may be lost after a number of them. -/
theorem related_stepTimes {Related : Nat → Machine → Machine → Prop} {bound : Nat}
    (together : ∀ count < bound, ∀ first second, Related count first second →
      InStep tell (Related (count + 1)) first second)
    (related : Related 0 first second) {count : Nat} (within : count ≤ bound) :
    Related count (stepTimes count first) (stepTimes count second) := by
  induction count with
  | zero => exact related
  | succ count ih =>
      rw [stepTimes_succ, stepTimes_succ]
      have before := ih (Nat.le_of_succ_le within)
      exact (together count within _ _ before).step.2

/-- What keeps two machines in step, and is kept by their steps, holds after every number of them; and so
    every step is answered alike. -/
theorem kept_stepTimes {Kept : Machine → Machine → Prop}
    (together : ∀ {first second}, Kept first second → InStep tell Kept first second)
    (kept : Kept first second) (count : Nat) :
    (stepTimes count second).step.2 = (stepTimes count first).step.2.retell tell ∧
      Kept (stepTimes count first) (stepTimes count second) := by
  have always : ∀ earlier < count, ∀ one next, Kept one next → InStep tell Kept one next :=
    fun _ _ _ _ => together
  have last : Kept (stepTimes count first) (stepTimes count second) :=
    related_stepTimes always kept (Nat.le_refl count)
  exact ⟨(together last).step.1, last⟩

/-- Machines that answer every step alike halt alike. -/
theorem haltsAfter_iff_of_steps_eq
    (steps : ∀ count, (stepTimes count second).step.2 = (stepTimes count first).step.2)
    {count : Nat} {halt : Halt} : second.HaltsAfter count halt ↔ first.HaltsAfter count halt := by
  constructor
  · intro halts
    refine ⟨fun earlier below => ?_, (steps count).symm.trans halts.halts⟩
    exact (steps earlier).symm.trans (halts.advances earlier below)
  · intro halts
    refine ⟨fun earlier below => ?_, (steps count).trans halts.halts⟩
    exact (steps earlier).trans (halts.advances earlier below)

/-- Runs of loaded machines that answer every step alike come to the same answer, or to none. -/
theorem run_result_eq {fresh other next last : Machine} {input word : List Char}
    (started : fresh.start input = (next, .ok .advanced))
    (loaded : other.start word = (last, .ok .advanced))
    (steps : ∀ count, (stepTimes count last).step.2 = (stepTimes count next).step.2) (limit : Nat) :
    (other.run limit word).map Run.result = (fresh.run limit input).map Run.result := by
  apply Option.ext
  intro result
  simp only [Option.map_eq_some_iff, run_eq_some_iff started, run_eq_some_iff loaded,
    haltsAfter_iff_of_steps_eq steps]
  constructor
  · intro given
    obtain ⟨-, ⟨count, below, halt, halts, rfl⟩, rfl⟩ := given
    exact ⟨_, ⟨count, below, halt, halts, rfl⟩, rfl⟩
  · intro given
    obtain ⟨-, ⟨count, below, halt, halts, rfl⟩, rfl⟩ := given
    exact ⟨_, ⟨count, below, halt, halts, rfl⟩, rfl⟩

end Machine

end Multitape
