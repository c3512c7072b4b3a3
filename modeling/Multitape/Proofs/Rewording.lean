/-
Module: Multitape.Proofs.Rewording
Purpose: All symbols but the wildcard are alike, and so are all state names. Declarations in other words
  build if the declarations do, and the machine that they make does in other words what the machine
  does: no symbol and no name has a meaning of its own, and the order of symbols has none either.
Main exports: Translation.declarations, translated_declarations, movedPlace_declarations,
  Machine.Reworded, reworded_runs_alike
-/
import Mathlib.Logic.Equiv.Basic
import Multitape.Proofs.Tabulation
import Multitape.Proofs.TranslatedRuns

namespace Multitape

/-! ### Declarations in other words -/

/-- All that is declared, in other words. States are declared in the same order. -/
def Translation.declarations (translation : Translation) (declarations : Declarations) :
    Declarations where
  name := declarations.name
  states := declarations.states.map translation.name
  inputAlphabet := translation.alphabet declarations.inputAlphabet
  tapeAlphabet := translation.alphabet declarations.tapeAlphabet
  blank := translation.symbol declarations.blank
  tapeCount := declarations.tapeCount
  initial := declarations.initial.map translation.name
  accepting := declarations.accepting.map translation.name
  rules := declarations.rules.map translation.rule

namespace Declarations

variable (translation : Translation) (declarations : Declarations)

theorem translated_declarations :
    declarations.Translated translation (translation.declarations declarations) :=
  ⟨List.Perm.refl _, rfl, rfl, rfl, rfl, rfl, rfl, rfl⟩

variable {declarations}

/-- States that are declared in the same order stand at the same places. -/
theorem movedPlace_declarations (consistent : declarations.Consistent) {place : Nat}
    (bound : place < declarations.states.length) :
    movedPlace translation declarations (translation.declarations declarations) place = place := by
  have translated := translated_declarations translation declarations
  have nodup := (translated.consistent_iff.2 consistent).states_nodup
  have kept : place < (translation.declarations declarations).states.length := by
    rw [translated.states_perm.length_eq, List.length_map]
    exact bound
  have named : (translation.declarations declarations).states[place] =
      translation.name (declarations.program.stateAt place).name := by
    rw [stateAt_program bound]
    exact List.getElem_map translation.name
  rw [movedPlace, ← named]
  exact nodup.idxOf_getElem place kept

end Declarations

/-! ### Machines in other words -/

namespace Machine

/-- The second machine stands as the first one does, in other words: its state has the same place, its
    counter and its last rule have the same numbers, and its tapes hold the translated cells, with as
    many of them before the head and before the origin. -/
structure Reworded (translation : Translation) (first second : Machine) : Prop where
  current_eq : second.current = first.current
  stepCount_eq : second.stepCount = first.stepCount
  lastTransition_eq : second.lastTransition = first.lastTransition
  status_eq : second.status = first.status.retell translation.rejection
  tapes_eq : second.tapes = first.tapes.map translation.tape
  cells_eq : second.tapes.map Tape.cells =
    first.tapes.map fun tape => tape.cells.map translation.symbol
  heads_eq : second.tapes.map Tape.head = first.tapes.map Tape.head
  offsets_eq : second.tapes.map Tape.offset = first.tapes.map Tape.offset

/-- Where no state moves, the second machine stands as the first one does. -/
theorem Translated.reworded {translation : Translation} {move : Nat → Nat} {program other : Program}
    {first second : Machine} (translated : Translated translation move program other first second)
    (stays : ∀ place < program.states.length, move place = place) :
    first.Reworded translation second where
  current_eq := translated.current_eq.trans (stays first.current translated.sound.current_lt)
  stepCount_eq := translated.stepCount_eq
  lastTransition_eq := translated.lastTransition_eq
  status_eq := translated.status_eq
  tapes_eq := translated.tapes_eq
  cells_eq := by simp [translated.tapes_eq, Translation.word]
  heads_eq := by simp [translated.tapes_eq]
  offsets_eq := by simp [translated.tapes_eq, Translation.tape]

/-- All symbols but the wildcard are treated alike, and so are all names. If symbols and names are
    replaced everywhere in the declarations, different ones by different ones, a program comes of them
    if one came of the declarations. Started with an input and with the replaced input, fresh machines
    of both answer alike and stand alike, then and after any number of steps. -/
theorem reworded_runs_alike (translation : Translation) (declarations : Declarations) :
    ((∃ other, (translation.declarations declarations).build = .ok other) ↔
      ∃ program, declarations.build = .ok program) ∧
    ∀ program other, declarations.build = .ok program →
      (translation.declarations declarations).build = .ok other → ∀ input : List Char,
        ((ofProgram other).start (input.map translation.symbol)).2 =
            translation.answer ((ofProgram program).start input).2 ∧
          ∀ count,
            (stepTimes count ((ofProgram other).start (input.map translation.symbol)).1).step.2 =
                (stepTimes count ((ofProgram program).start input).1).step.2.retell
                  translation.rejection ∧
              (stepTimes count ((ofProgram program).start input).1).Reworded translation
                (stepTimes count ((ofProgram other).start (input.map translation.symbol)).1) := by
  have translated := Declarations.translated_declarations translation declarations
  refine ⟨translated.builds_iff, ?_⟩
  intro program other built otherBuilt input
  obtain ⟨consistent, rfl⟩ := Declarations.build_eq_ok_iff.1 built
  obtain ⟨-, rfl⟩ := Declarations.build_eq_ok_iff.1 otherBuilt
  have tables := translated.program_translated consistent
  obtain ⟨answers, runs⟩ := translated_runs tables consistent.wellFormed input
  refine ⟨answers, fun count => ?_⟩
  obtain ⟨steps, stands⟩ := runs count
  refine ⟨steps, stands.reworded fun place bound => ?_⟩
  rw [Declarations.length_program_states] at bound
  exact Declarations.movedPlace_declarations translation consistent bound

/-- Zeros and blanks are exchanged, and every name gets a mark. -/
def exchange : Translation where
  symbol := Equiv.swap '0' '_'
  name := (· ++ "'")
  symbol_injective := (Equiv.swap '0' '_').injective
  symbol_wildcard := rfl
  name_injective := fun _ _ same => (String.append_left_inj "'").1 same

/-- The machine that marks zeros marks blanks when it is declared with zeros for blanks. -/
theorem reworded_marker_runs_alike :
    Declarations.marker.build = .ok Declarations.marker.program ∧
      (exchange.declarations Declarations.marker).build =
        .ok (exchange.declarations Declarations.marker).program ∧
      ((ofProgram (exchange.declarations Declarations.marker).program).start ['_', '1']).2 =
        .ok .advanced ∧
      ∀ count,
        (stepTimes count ((ofProgram Declarations.marker.program).start ['0', '1']).1).Reworded
          exchange
          (stepTimes count ((ofProgram
            (exchange.declarations Declarations.marker).program).start ['_', '1']).1) := by
  have reworded : (exchange.declarations Declarations.marker).build =
      .ok (exchange.declarations Declarations.marker).program := rfl
  obtain ⟨-, alike⟩ := reworded_runs_alike exchange Declarations.marker
  obtain ⟨answers, runs⟩ := alike _ _ Declarations.marker_build reworded ['0', '1']
  exact ⟨Declarations.marker_build, reworded, answers, fun count => (runs count).2⟩

end Machine

end Multitape
