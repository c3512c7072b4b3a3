/-
Module: Multitape.Proofs.Erasure
Purpose: A reset leaves nothing of what was done before. It restores the state and the counters by itself;
  that it restores the tapes as well is so because no operation changes their number, their alphabets
  or their blanks, which `Machine.Sound` records.
Main exports: Machine.Sound.reset_eq, Machine.Ready.eq_ofProgram, resetMarker, performAll_append,
  answers_append, reset_erases_history
-/
import Multitape.Proofs.MachineInvariant

namespace Multitape

/-- A cleared tape is one that was never used. -/
theorem Tape.Sound.clear_eq {alphabet : Alphabet} {blank : Char} {tape : Tape}
    (sound : tape.Sound alphabet blank) : tape.clear = Tape.withBlank alphabet blank := by
  rw [Tape.clear, Tape.withBlank, sound.alphabet_eq, sound.blank_eq]

namespace Machine

variable {program : Program} {machine : Machine}

/-- The tapes of a sound machine, cleared, are those of a fresh one. -/
theorem Sound.map_clear_tapes (sound : machine.Sound program) :
    machine.tapes.map Tape.clear = (ofProgram program).tapes := by
  have cleared : ∀ tape ∈ machine.tapes.map Tape.clear,
      tape = Tape.withBlank program.tapeAlphabet program.blank := by
    intro tape mem
    obtain ⟨used, usedMem, rfl⟩ := List.mem_map.1 mem
    exact (sound.tapes_sound used usedMem).clear_eq
  have count : (machine.tapes.map Tape.clear).length = program.tapeCount := by
    rw [List.length_map, sound.tapes_length]
  exact List.eq_replicate_iff.2 ⟨count, cleared⟩

/-- A sound machine that is reset is the fresh machine of its program. -/
theorem Sound.reset_eq (sound : machine.Sound program) : machine.reset = ofProgram program := by
  rw [Machine.reset, sound.map_clear_tapes, sound.program_eq]
  rfl

/-- There is one machine that is ready for an input. -/
theorem Ready.eq_ofProgram (ready : Ready program machine) (wellFormed : program.WellFormed) :
    machine = ofProgram program := by
  cases ready with
  | fresh => rfl
  | afterReset reachable => exact (sound_of_reachable wellFormed reachable).reset_eq

/-- The marker, reset after a troubled history. -/
def resetMarker : Machine :=
  ((ofProgram Declarations.marker.program).performAll troubledHistory).reset

theorem ready_resetMarker : Ready Declarations.marker.program resetMarker :=
  .afterReset ⟨troubledHistory, rfl⟩

/-! ### Histories, one after the other -/

theorem performAll_append (machine : Machine) (before after : List Operation) :
    machine.performAll (before ++ after) = (machine.performAll before).performAll after :=
  List.foldl_append

theorem answers_append (machine : Machine) (before after : List Operation) :
    machine.answers (before ++ after) =
      machine.answers before ++ (machine.performAll before).answers after := by
  induction before generalizing machine with
  | nil => rfl
  | cons operation before ih =>
      exact congrArg (machine.answer operation :: ·) (ih (machine.perform operation))

/-- A reset erases history. Whatever was done to the machine of a built program, once it is reset it is
    the fresh machine again, in every field and on every tape; and whatever is done after that, it
    answers, and becomes, what a fresh machine would. -/
theorem reset_erases_history {declarations : Declarations} {program : Program}
    (built : declarations.build = .ok program) (before after : List Operation) :
    ((ofProgram program).performAll before).reset = ofProgram program ∧
      (ofProgram program).answers (before ++ .reset :: after) =
        (ofProgram program).answers before ++ .reset :: (ofProgram program).answers after ∧
      (ofProgram program).performAll (before ++ .reset :: after) =
        (ofProgram program).performAll after := by
  have wellFormed : program.WellFormed := wellFormed_of_build built
  have sound : ((ofProgram program).performAll before).Sound program :=
    sound_of_reachable wellFormed ⟨before, rfl⟩
  have erased : ((ofProgram program).performAll before).reset = ofProgram program := sound.reset_eq
  refine ⟨erased, ?_, ?_⟩
  · rw [answers_append, answers, perform, erased]
    rfl
  · rw [performAll_append, performAll, List.foldl_cons, perform, erased]
    rfl

/-- The marker forgets a troubled history, and answers to a run as if it were its first. -/
theorem reset_erases_troubledHistory :
    Declarations.marker.build = .ok Declarations.marker.program ∧
      ((ofProgram Declarations.marker.program).performAll troubledHistory).reset =
        ofProgram Declarations.marker.program ∧
      (ofProgram Declarations.marker.program).answers (troubledHistory ++ [.reset, .run 20 ['0']]) =
        (ofProgram Declarations.marker.program).answers troubledHistory ++
          .reset :: (ofProgram Declarations.marker.program).answers [.run 20 ['0']] := by
  obtain ⟨erased, answered, -⟩ :=
    reset_erases_history Declarations.marker_build troubledHistory [.run 20 ['0']]
  exact ⟨Declarations.marker_build, erased, answered⟩

end Machine

end Multitape
