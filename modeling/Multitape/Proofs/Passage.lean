/-
Module: Multitape.Proofs.Passage
Purpose: What several rules, taken one after the other, make of a state and its tapes. A passage
  counts the rules that lead from one situation to another; passages are put together from single
  rules and from sweeps over a word. `Passage.halts` says what becomes of a machine that stands at
  the beginning of a passage to an end.
Main exports: Situation, Passage, Passage.trans, Program.tape, Passage.sweepRight,
  Passage.sweepLeft, Machine.Stands, Passage.halts
-/
import Multitape.Proofs.MachineHistory

namespace Multitape

/-! ### Situations and passages -/

/-- A state, and tapes whose heads stand on stored cells. What a machine remembers of its run is left
    out. -/
structure Situation where
  place : Nat
  tapes : List Tape

/-- The situation of a machine that has read its tapes. -/
def Machine.situation (machine : Machine) : Situation :=
  ⟨machine.current, machine.readTapes.tapes⟩

/-- What a rule makes of a situation. -/
def Situation.after (situation : Situation) (transition : Transition) : Situation :=
  ⟨transition.target, (transition.execute situation.tapes).map Tape.settle⟩

/-- The rule that is taken in a situation. -/
def Program.ruleIn? (program : Program) (situation : Situation) : Option Transition :=
  (program.stateAt situation.place).ruleFor? (situation.tapes.map Tape.peek)

/-- A program goes no further: the state accepts, or no rule applies. -/
def Program.Ends (program : Program) (situation : Situation) : Prop :=
  (program.stateAt situation.place).accepting = true ∨ program.ruleIn? situation = none

/-- A number of rules leads from one situation to another. No state on the way accepts, except
    perhaps the last. -/
inductive Passage (program : Program) : Nat → Situation → Situation → Prop where
  | rest (situation : Situation) : Passage program 0 situation situation
  | rule {count : Nat} {first last : Situation} {transition : Transition}
      (running : (program.stateAt first.place).accepting = false)
      (rule : program.ruleIn? first = some transition)
      (others : Passage program count (first.after transition) last) :
      Passage program (count + 1) first last

variable {program : Program}

namespace Passage

/-- One rule is a passage. -/
theorem single {first next : Situation} {transition : Transition}
    (running : (program.stateAt first.place).accepting = false)
    (rule : program.ruleIn? first = some transition) (reached : first.after transition = next) :
    Passage program 1 first next := by
  subst reached
  exact .rule running rule (.rest _)

/-- Where one passage ends another may begin. -/
theorem trans {count more : Nat} {first middle last : Situation}
    (one : Passage program count first middle) (other : Passage program more middle last) :
    Passage program (count + more) first last := by
  induction one with
  | rest => simpa using other
  | rule running rule _ ih => simpa [Nat.add_right_comm] using Passage.rule running rule (ih other)

end Passage

/-! ### Passages on one tape -/

@[simp] theorem Tape.settle_settle (tape : Tape) : tape.settle.settle = tape.settle := by
  obtain ⟨behind, ahead, offset, alphabet, blank⟩ := tape
  cases ahead <;> rfl

/-- The tape of a program with cells behind its head and from the head on. A head without a cell is
    given a blank. -/
def Program.tape (program : Program) (behind ahead : List Char) : Tape :=
  { Tape.withBlank program.tapeAlphabet program.blank with behind := behind, ahead := ahead }.settle

namespace Tape

variable {behind ahead : List Char} {symbol written : Char}

/-- A head that has been moved to the right leaves its cell behind. -/
theorem settle_shift_right :
    (((program.tape behind (symbol :: ahead)).write written).shift .right).settle =
      program.tape (written :: behind) ahead :=
  settle_settle _

/-- A head that has been moved to the left has its cell ahead. -/
theorem settle_shift_left :
    (((program.tape behind (symbol :: ahead)).write written).shift .left).settle =
      (program.tape behind (written :: ahead)).moveLeft := by
  cases behind <;> rfl

/-- A head that stands on a stored cell comes back to the cell it has left last. -/
theorem moveLeft_tape (stored : ahead ≠ []) :
    (program.tape (symbol :: behind) ahead).moveLeft = program.tape behind (symbol :: ahead) := by
  obtain ⟨cell, rest, rfl⟩ := List.exists_cons_of_ne_nil stored
  rfl

end Tape

namespace Passage

variable {place id source target : Nat} {read : List Char} {symbol written : Char}

/-- A rule that moves to the right. -/
theorem right (running : (program.stateAt place).accepting = false)
    (rule : (program.stateAt place).ruleFor? [symbol] =
      some ⟨id, source, target, read, [written], [.right]⟩) (behind ahead : List Char) :
    Passage program 1 ⟨place, [program.tape behind (symbol :: ahead)]⟩
      ⟨target, [program.tape (written :: behind) ahead]⟩ :=
  .single running rule (congrArg (fun tape => Situation.mk target [tape]) Tape.settle_shift_right)

/-- A rule that moves to the left. -/
theorem left (running : (program.stateAt place).accepting = false)
    (rule : (program.stateAt place).ruleFor? [symbol] =
      some ⟨id, source, target, read, [written], [.left]⟩) (behind ahead : List Char) :
    Passage program 1 ⟨place, [program.tape behind (symbol :: ahead)]⟩
      ⟨target, [(program.tape behind (written :: ahead)).moveLeft]⟩ :=
  .single running rule (congrArg (fun tape => Situation.mk target [tape]) Tape.settle_shift_left)

/-- A rule that moves nowhere. -/
theorem stay (running : (program.stateAt place).accepting = false)
    (rule : (program.stateAt place).ruleFor? [symbol] =
      some ⟨id, source, target, read, [written], [.stay]⟩) (behind ahead : List Char) :
    Passage program 1 ⟨place, [program.tape behind (symbol :: ahead)]⟩
      ⟨target, [program.tape behind (written :: ahead)]⟩ :=
  .single running rule rfl

end Passage

/-- A rule on two tapes. -/
theorem Passage.both {place id source target : Nat} {read : List Char} {first second one other : Tape}
    {symbol mark : Char} {direction turn : Direction}
    (running : (program.stateAt place).accepting = false)
    (rule : program.ruleIn? ⟨place, [first, second]⟩ =
      some ⟨id, source, target, read, [symbol, mark], [direction, turn]⟩)
    (onFirst : ((first.write symbol).shift direction).settle = one)
    (onSecond : ((second.write mark).shift turn).settle = other) :
    Passage program 1 ⟨place, [first, second]⟩ ⟨target, [one, other]⟩ := by
  subst onFirst onSecond
  exact .single running rule rfl

/-- A state passes over a symbol: it leaves it as it is, moves on and stays the state. -/
def Program.Passes (program : Program) (place : Nat) (direction : Direction) (symbol : Char) : Prop :=
  (program.stateAt place).accepting = false ∧ ∃ id source read,
    (program.stateAt place).ruleFor? [symbol] =
      some ⟨id, source, place, read, [symbol], [direction]⟩

namespace Passage

/-- A state goes over a word to its right, symbol by symbol. -/
theorem sweepRight {place : Nat} {word : List Char}
    (passes : ∀ symbol ∈ word, program.Passes place .right symbol) (behind ahead : List Char) :
    Passage program word.length ⟨place, [program.tape behind (word ++ ahead)]⟩
      ⟨place, [program.tape (word.reverse ++ behind) ahead]⟩ := by
  induction word generalizing behind with
  | nil => exact .rest _
  | cons symbol word ih =>
      obtain ⟨running, id, source, read, rule⟩ := passes symbol List.mem_cons_self
      have first : Passage program 1 ⟨place, [program.tape behind (symbol :: (word ++ ahead))]⟩
          ⟨place, [program.tape (symbol :: behind) (word ++ ahead)]⟩ :=
        .right running rule behind (word ++ ahead)
      have others := ih (fun other mem => passes other (List.mem_cons_of_mem symbol mem))
        (symbol :: behind)
      simpa [Nat.add_comm] using first.trans others

/-- A state goes over a word to its left, from the cell that has just been left to the left. The
    word is listed as the head meets it. -/
theorem sweepLeft {place : Nat} {word : List Char}
    (passes : ∀ symbol ∈ word, program.Passes place .left symbol) (behind : List Char) (cell : Char)
    (ahead : List Char) :
    Passage program word.length ⟨place, [(program.tape (word ++ behind) (cell :: ahead)).moveLeft]⟩
      ⟨place, [(program.tape behind (word.reverse ++ cell :: ahead)).moveLeft]⟩ := by
  induction word generalizing cell ahead with
  | nil => exact .rest _
  | cons symbol word ih =>
      obtain ⟨running, id, source, read, rule⟩ := passes symbol List.mem_cons_self
      have first : Passage program 1
          ⟨place, [program.tape (word ++ behind) (symbol :: cell :: ahead)]⟩
          ⟨place, [(program.tape (word ++ behind) (symbol :: cell :: ahead)).moveLeft]⟩ :=
        .left running rule (word ++ behind) (cell :: ahead)
      have others := ih (fun other mem => passes other (List.mem_cons_of_mem symbol mem)) symbol
        (cell :: ahead)
      rw [List.length_cons, Nat.add_comm, List.reverse_cons, List.append_assoc]
      exact first.trans others

end Passage

/-! ### Machines on a passage -/

namespace Machine

/-- A machine of a program stands in a situation, can go on, and has taken a number of rules. -/
structure Stands (program : Program) (taken : Nat) (situation : Situation) (machine : Machine) :
    Prop where
  program_eq : machine.program = program
  unhalted : machine.halt? = none
  situation_eq : machine.situation = situation
  stepCount_eq : machine.stepCount = taken

variable {machine : Machine} {taken : Nat} {situation : Situation} {transition : Transition}

@[simp] theorem situation_readTapes (machine : Machine) :
    machine.readTapes.situation = machine.situation := by
  simp [Machine.situation, readTapes]

theorem Stands.nextRule?_eq (stands : machine.Stands program taken situation) :
    machine.nextRule? = program.ruleIn? situation := by
  rw [← stands.situation_eq, ← stands.program_eq, nextRule?, ← readTapes_symbols]
  rfl

/-- Without a rule the machine is stuck where it stands. -/
theorem Stands.stuck (stands : machine.Stands program taken situation)
    (noRule : program.ruleIn? situation = none) :
    machine.step.2 = .halted machine.stuckHalt ∧ machine.step.1.stepCount = taken ∧
      machine.step.1.situation = situation := by
  rw [← stands.nextRule?_eq] at noRule
  have stepped := (StepOutcome.stuck stands.unhalted noRule).step_eq
  have stood : (machine.readTapes.haltWith machine.stuckHalt).situation = machine.situation :=
    situation_readTapes machine
  rw [stepped]
  exact ⟨rfl, stands.stepCount_eq, stood.trans stands.situation_eq⟩

/-- A rule that leads to an accepting state is the last one. -/
theorem Stands.accepts (stands : machine.Stands program taken situation)
    (rule : program.ruleIn? situation = some transition)
    (accepts : (program.stateAt transition.target).accepting = true) :
    machine.step.2 = .halted .accepted ∧ machine.step.1.stepCount = taken + 1 ∧
      machine.step.1.situation = situation.after transition := by
  rw [← stands.nextRule?_eq] at rule
  rw [← stands.program_eq] at accepts
  have stepped := (StepOutcome.accepting stands.unhalted rule accepts).step_eq
  rw [stepped, ← stands.situation_eq]
  exact ⟨rfl, congrArg (· + 1) stands.stepCount_eq, rfl⟩

/-- After any other rule the machine can go on. -/
theorem Stands.advances (stands : machine.Stands program taken situation)
    (rule : program.ruleIn? situation = some transition)
    (refuses : (program.stateAt transition.target).accepting = false) :
    machine.step.2 = .advanced ∧
      machine.step.1.Stands program (taken + 1) (situation.after transition) := by
  rw [← stands.nextRule?_eq] at rule
  rw [← stands.program_eq] at refuses
  have stepped := (StepOutcome.advancing stands.unhalted rule refuses).step_eq
  rw [stepped, ← stands.situation_eq]
  exact ⟨rfl, stands.program_eq, rfl, rfl, congrArg (· + 1) stands.stepCount_eq⟩

end Machine

namespace Passage

open Machine

/-- A machine at the beginning of a passage to an end makes that passage and halts. It accepts if the
    state at the end does. -/
theorem halts {count taken : Nat} {first last : Situation} {machine : Machine}
    (passage : Passage program count first last) (ends : program.Ends last)
    (running : (program.stateAt first.place).accepting = false)
    (stands : machine.Stands program taken first) :
    ∃ steps ≤ count, ∃ halt, machine.HaltsAfter steps halt ∧
      halt.isAccepted = (program.stateAt last.place).accepting ∧
      (stepTimes (steps + 1) machine).stepCount = taken + count ∧
      (stepTimes (steps + 1) machine).situation = last := by
  induction passage generalizing taken machine with
  | rest situation =>
      have noRule : program.ruleIn? situation = none := ends.resolve_left (by simp [running])
      obtain ⟨halted, counted, stood⟩ := stands.stuck noRule
      exact ⟨0, Nat.le_refl 0, _, haltsAfter_zero_iff.2 halted, running.symm, counted, stood⟩
  | @rule count first last transition _ rule others ih =>
      cases target : (program.stateAt transition.target).accepting with
      | true =>
          -- An accepting state is left by no passage, so this one ends there.
          obtain ⟨halted, counted, stood⟩ := stands.accepts rule target
          cases others with
          | rest =>
              exact ⟨0, Nat.zero_le _, _, haltsAfter_zero_iff.2 halted, target.symm, counted, stood⟩
          | rule running => simp [Situation.after, target] at running
      | false =>
          obtain ⟨advanced, next⟩ := stands.advances rule target
          obtain ⟨steps, bound, halt, halts, answer, counted, stood⟩ := ih ends target next
          refine ⟨steps + 1, Nat.succ_le_succ bound, halt, haltsAfter_succ_iff.2 ⟨advanced, halts⟩,
            answer, ?_, stood⟩
          rw [stepTimes, counted, Nat.add_right_comm, Nat.add_assoc]

end Passage

end Multitape
