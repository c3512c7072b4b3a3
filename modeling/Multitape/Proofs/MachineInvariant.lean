/-
Module: Multitape.Proofs.MachineInvariant
Purpose: What is true of a machine at every moment of its history. `Tape.Sound` is kept by every
  operation on a tape, `Machine.Sound` by every operation on a machine, and so by every history,
  whatever inputs were refused, started without a reset or left in the middle.
Main exports: Tape.Sound, Machine.Sound, Machine.Sound.step, Machine.Sound.start, Sound.start_answer,
  sound_of_reachable, Machine.InBounds, machine_invariant_of_reachable
-/
import Mathlib.Data.List.TakeWhile
import Multitape.Proofs.Assembly
import Multitape.Proofs.MachineHistory
import Multitape.Proofs.TapeByTape

namespace Multitape

/-! ### Tapes -/

namespace Tape

/-- A tape of an alphabet and a blank: only symbols of the alphabet are stored, and the head stands
    on a stored cell unless there is none. -/
structure Sound (alphabet : Alphabet) (blank : Char) (tape : Tape) : Prop where
  alphabet_eq : tape.alphabet = alphabet
  blank_eq : tape.blank = blank
  cells_mem : ∀ symbol ∈ tape.cells, symbol ∈ alphabet
  head_inside : tape.head < tape.cells.length ∨ tape.cells = [] ∧ tape.head = 0

theorem mem_cells {tape : Tape} {symbol : Char} :
    symbol ∈ tape.cells ↔ symbol ∈ tape.behind ∨ symbol ∈ tape.ahead := by
  simp [cells]

/-- Where the cells are kept on the two sides of the head: there is none behind a head that has none
    ahead. -/
theorem head_inside_iff {tape : Tape} :
    (tape.head < tape.cells.length ∨ tape.cells = [] ∧ tape.head = 0) ↔
      (tape.ahead = [] → tape.behind = []) := by
  cases ahead : tape.ahead <;> simp [head, cells, ahead]

/-- A word over the alphabet of a tape is inserted whole. -/
theorem insert_eq_append {tape : Tape} {word : List Char}
    (known : ∀ symbol ∈ word, symbol ∈ tape.alphabet) :
    tape.insert word = ({ tape with ahead := tape.ahead ++ word }, none) := by
  have all : ∀ symbol ∈ word, tape.alphabet.contains symbol = true := fun symbol mem =>
    Alphabet.contains_iff.2 (known symbol mem)
  rw [Tape.insert, List.takeWhile_eq_self_iff.2 all, List.dropWhile_eq_nil_iff.2 all]
  rfl

variable {alphabet : Alphabet} {blank : Char} {tape : Tape}

theorem sound_withBlank (alphabet : Alphabet) (blank : Char) :
    (withBlank alphabet blank).Sound alphabet blank where
  alphabet_eq := rfl
  blank_eq := rfl
  cells_mem := by simp [cells, withBlank]
  head_inside := Or.inr ⟨rfl, rfl⟩

namespace Sound

theorem behind_mem (sound : tape.Sound alphabet blank) :
    ∀ symbol ∈ tape.behind, symbol ∈ alphabet :=
  fun symbol mem => sound.cells_mem symbol (mem_cells.2 (Or.inl mem))

theorem ahead_mem (sound : tape.Sound alphabet blank) : ∀ symbol ∈ tape.ahead, symbol ∈ alphabet :=
  fun symbol mem => sound.cells_mem symbol (mem_cells.2 (Or.inr mem))

/-- No wildcard is ever stored, if it is no symbol of the alphabet. -/
theorem not_mem_cells (sound : tape.Sound alphabet blank) {symbol : Char}
    (foreign : symbol ∉ alphabet) :
    symbol ∉ tape.cells :=
  fun mem => foreign (sound.cells_mem symbol mem)

/-- The symbol under the head is of the alphabet, also where no cell is stored. -/
theorem peek_mem (sound : tape.Sound alphabet blank) (blankMem : blank ∈ alphabet) :
    tape.peek ∈ alphabet := by
  unfold peek
  cases ahead : tape.ahead with
  | nil => simpa [sound.blank_eq] using blankMem
  | cons cell rest => exact sound.ahead_mem cell (by simp [ahead])

/-- An operation keeps a tape sound if it stores symbols of the alphabet only and leaves the head on
    a stored cell. -/
theorem of_ahead_ne_nil {other : Tape} (sound : tape.Sound alphabet blank)
    (sameAlphabet : other.alphabet = tape.alphabet) (sameBlank : other.blank = tape.blank)
    (behind : ∀ symbol ∈ other.behind, symbol ∈ alphabet)
    (ahead : ∀ symbol ∈ other.ahead, symbol ∈ alphabet) (stored : other.ahead ≠ []) :
    other.Sound alphabet blank where
  alphabet_eq := sameAlphabet.trans sound.alphabet_eq
  blank_eq := sameBlank.trans sound.blank_eq
  cells_mem := fun symbol mem => (mem_cells.1 mem).elim (behind symbol) (ahead symbol)
  head_inside := head_inside_iff.2 fun none => absurd none stored

theorem settle (sound : tape.Sound alphabet blank) (blankMem : blank ∈ alphabet) :
    tape.settle.Sound alphabet blank := by
  refine sound.of_ahead_ne_nil tape.settle_alphabet tape.settle_blank ?_ ?_ tape.settle_ahead_ne_nil
  · rw [settle_behind]
    exact sound.behind_mem
  · unfold Tape.settle
    split
    · simpa [sound.blank_eq] using blankMem
    · exact sound.ahead_mem

theorem write (sound : tape.Sound alphabet blank) {symbol : Char} (mem : symbol ∈ alphabet) :
    (tape.write symbol).Sound alphabet blank := by
  refine sound.of_ahead_ne_nil rfl rfl sound.behind_mem ?_ (List.cons_ne_nil _ _)
  intro other otherMem
  rcases List.mem_cons.1 otherMem with rfl | otherMem
  · exact mem
  · exact sound.ahead_mem other (List.mem_of_mem_tail otherMem)

theorem moveLeft (sound : tape.Sound alphabet blank) (blankMem : blank ∈ alphabet) :
    tape.moveLeft.Sound alphabet blank := by
  refine sound.of_ahead_ne_nil tape.moveLeft_alphabet tape.moveLeft_blank ?_ ?_ (by simp)
  · intro symbol mem
    rw [moveLeft_behind] at mem
    exact sound.behind_mem symbol (List.mem_of_mem_tail mem)
  · intro symbol mem
    rw [moveLeft_ahead, List.mem_cons] at mem
    rcases mem with rfl | mem
    · cases behind : tape.behind with
      | nil => simpa [sound.blank_eq] using blankMem
      | cons cell rest => exact sound.behind_mem cell (by simp [behind])
    · exact sound.ahead_mem symbol mem

theorem moveRight (sound : tape.Sound alphabet blank) (blankMem : blank ∈ alphabet) :
    tape.moveRight.Sound alphabet blank := by
  cases ahead : tape.ahead with
  | nil => simpa [Tape.moveRight, ahead] using sound.settle blankMem
  | cons cell rest =>
      rw [moveRight_eq_settle tape ahead]
      have cellMem : cell ∈ alphabet := sound.ahead_mem cell (by simp [ahead])
      have restMem : ∀ symbol ∈ rest, symbol ∈ alphabet := fun symbol mem =>
        sound.ahead_mem symbol (by simp [ahead, mem])
      refine sound.of_ahead_ne_nil (settle_alphabet _) (settle_blank _) ?_ ?_
        (settle_ahead_ne_nil _)
      · intro symbol mem
        rw [settle_behind, List.mem_cons] at mem
        rcases mem with rfl | mem
        · exact cellMem
        · exact sound.behind_mem symbol mem
      · unfold Tape.settle
        split
        · simpa [sound.blank_eq] using blankMem
        · exact restMem

theorem shift (sound : tape.Sound alphabet blank) (blankMem : blank ∈ alphabet)
    (direction : Direction) : (tape.shift direction).Sound alphabet blank := by
  cases direction with
  | left => exact sound.moveLeft blankMem
  | right => exact sound.moveRight blankMem
  | stay => exact sound

/-- Cells may be appended, also to a tape that has been used. -/
theorem append (sound : tape.Sound alphabet blank) {word : List Char}
    (mem : ∀ symbol ∈ word, symbol ∈ alphabet) :
    { tape with ahead := tape.ahead ++ word }.Sound alphabet blank where
  alphabet_eq := sound.alphabet_eq
  blank_eq := sound.blank_eq
  cells_mem := by
    intro symbol symbolMem
    rcases mem_cells.1 symbolMem with symbolMem | symbolMem
    · exact sound.behind_mem symbol symbolMem
    · exact (List.mem_append.1 symbolMem).elim (sound.ahead_mem symbol) (mem symbol)
  head_inside := by
    refine head_inside_iff.2 fun none => ?_
    have ahead : tape.ahead = [] := (List.append_eq_nil_iff.1 none).1
    have behind : tape.behind = [] := head_inside_iff.1 sound.head_inside ahead
    exact behind

/-- What is inserted before a foreign symbol stays, and is of the alphabet. -/
theorem insert (sound : tape.Sound alphabet blank) (word : List Char) :
    (tape.insert word).1.Sound alphabet blank := by
  refine sound.append fun symbol mem => ?_
  have contained : tape.alphabet.contains symbol = true := List.mem_takeWhile_imp mem
  rw [← sound.alphabet_eq]
  exact Alphabet.contains_iff.1 contained

theorem pushBlank (sound : tape.Sound alphabet blank) (blankMem : blank ∈ alphabet) :
    tape.pushBlank.Sound alphabet blank :=
  sound.append (by simpa [sound.blank_eq] using blankMem)

theorem clear (sound : tape.Sound alphabet blank) : tape.clear.Sound alphabet blank where
  alphabet_eq := sound.alphabet_eq
  blank_eq := sound.blank_eq
  cells_mem := by simp [cells, Tape.clear]
  head_inside := Or.inr ⟨rfl, rfl⟩

end Sound

end Tape

/-! ### Machines -/

/-- An input has no foreign symbol if all its symbols are input symbols or wildcards. -/
theorem Program.foreignInput?_eq_none_iff {program : Program} {input : List Char} :
    program.foreignInput? input = none ↔
      ∀ symbol ∈ input, symbol ∈ program.inputAlphabet ∨ symbol = wildcard := by
  unfold Program.foreignInput?
  rw [List.find?_eq_none]
  refine forall₂_congr fun symbol _ => ?_
  by_cases wild : symbol = wildcard <;> simp [wild]

namespace Machine

/-- A machine of a program: it has a sound tape for each that the program declares, and it is in one
    of its states. -/
structure Sound (program : Program) (machine : Machine) : Prop where
  program_eq : machine.program = program
  tapes_length : machine.tapes.length = program.tapeCount
  tapes_sound : ∀ tape ∈ machine.tapes, tape.Sound program.tapeAlphabet program.blank
  current_lt : machine.current < program.states.length

variable {program : Program} {machine : Machine}

theorem sound_ofProgram (wellFormed : program.WellFormed) : (ofProgram program).Sound program where
  program_eq := rfl
  tapes_length := List.length_replicate
  tapes_sound := fun tape mem => by
    obtain rfl := List.eq_of_mem_replicate mem
    exact Tape.sound_withBlank program.tapeAlphabet program.blank
  current_lt := wellFormed.initial_lt

/-- A symbol of the alphabet stands under every head. -/
theorem Sound.symbols_mem (sound : machine.Sound program) (wellFormed : program.WellFormed) :
    ∀ symbol ∈ machine.symbols, symbol ∈ program.tapeAlphabet := by
  intro symbol mem
  obtain ⟨tape, tapeMem, rfl⟩ := List.mem_map.1 mem
  exact (sound.tapes_sound tape tapeMem).peek_mem wellFormed.blank_mem

theorem Sound.length_symbols (sound : machine.Sound program) :
    machine.symbols.length = program.tapeCount :=
  (List.length_map Tape.peek).trans sound.tapes_length

/-- The rule that a sound machine takes fits its program. -/
theorem Sound.fits_of_nextRule? (sound : machine.Sound program) (wellFormed : program.WellFormed)
    {transition : Transition} (rule : machine.nextRule? = some transition) :
    program.Fits transition := by
  have mem : transition ∈ (machine.program.stateAt machine.current).transitions :=
    List.mem_of_find?_eq_some rule
  rw [sound.program_eq] at mem
  exact wellFormed.fits mem

theorem Sound.readTapes (sound : machine.Sound program) (wellFormed : program.WellFormed) :
    machine.readTapes.Sound program where
  program_eq := sound.program_eq
  tapes_length := by simpa [Machine.readTapes] using sound.tapes_length
  tapes_sound := fun tape mem => by
    obtain ⟨tape, tapeMem, rfl⟩ := List.mem_map.1 mem
    exact (sound.tapes_sound tape tapeMem).settle wellFormed.blank_mem
  current_lt := sound.current_lt

/-- The status of a machine may be any. -/
theorem Sound.withStatus (sound : machine.Sound program) (status : Status) :
    { machine with status := status }.Sound program :=
  ⟨sound.program_eq, sound.tapes_length, sound.tapes_sound, sound.current_lt⟩

/-- Taking a rule that fits: its writes are tape symbols, its target is a state. -/
theorem Sound.apply (sound : machine.Sound program) (wellFormed : program.WellFormed)
    {transition : Transition} (fits : program.Fits transition) :
    (machine.apply transition).Sound program where
  program_eq := sound.program_eq
  tapes_length := (Transition.length_execute _ _).trans sound.tapes_length
  tapes_sound :=
    Transition.forall_mem_shiftAll (fun _ holds => holds)
      (fun _ direction holds => holds.shift wellFormed.blank_mem direction)
      (Transition.forall_mem_writeAll
        (fun _ symbol mem holds => holds.write (fits.write_mem symbol mem)) sound.tapes_sound)
  current_lt := fits.target_lt

/-- Whatever a step does, it keeps a machine sound. -/
theorem StepOutcome.sound {next : Machine} {result : Step}
    (outcome : StepOutcome machine next result)
    (wellFormed : program.WellFormed) (sound : machine.Sound program) : next.Sound program := by
  have read := sound.readTapes wellFormed
  cases outcome with
  | resting halted => exact sound
  | stuck live noRule => exact read.withStatus _
  | accepting live rule accepts =>
      exact (read.apply wellFormed (sound.fits_of_nextRule? wellFormed rule)).withStatus _
  | advancing live rule refuses =>
      exact (read.apply wellFormed (sound.fits_of_nextRule? wellFormed rule)).withStatus _

theorem Sound.step (sound : machine.Sound program) (wellFormed : program.WellFormed) :
    machine.step.1.Sound program :=
  machine.step_outcome.sound wellFormed sound

/-- Seeding keeps every tape, also when it breaks off at a refused symbol. -/
theorem seed_sound {alphabet : Alphabet} {blank : Char} (blankMem : blank ∈ alphabet)
    {tapes : List Tape} (sound : ∀ tape ∈ tapes, tape.Sound alphabet blank) (input : List Char) :
    (seed tapes input).1.length = tapes.length ∧
      ∀ tape ∈ (seed tapes input).1, tape.Sound alphabet blank := by
  unfold seed
  cases tapes with
  | nil => simp
  | cons first others =>
      obtain ⟨firstSound, othersSound⟩ := List.forall_mem_cons.1 sound
      have inserted := firstSound.insert input
      dsimp only
      split
      · rename_i tape symbol seeded
        rw [seeded] at inserted
        exact ⟨rfl, List.forall_mem_cons.2 ⟨inserted, othersSound⟩⟩
      · rename_i tape seeded
        rw [seeded] at inserted
        refine ⟨by simp, List.forall_mem_cons.2 ⟨inserted, fun tape mem => ?_⟩⟩
        obtain ⟨other, otherMem, rfl⟩ := List.mem_map.1 mem
        exact (othersSound other otherMem).pushBlank blankMem

/-- A start keeps a machine sound, whether the input is taken, rejected or refused by the tapes. -/
theorem Sound.start (sound : machine.Sound program) (wellFormed : program.WellFormed)
    (input : List Char) : (machine.start input).1.Sound program := by
  obtain ⟨length, seeded⟩ := seed_sound wellFormed.blank_mem sound.tapes_sound input
  unfold Machine.start
  split
  · exact ⟨sound.program_eq, sound.tapes_length, sound.tapes_sound, sound.current_lt⟩
  · split
    · rename_i tapes symbol found
      rw [found] at length seeded
      exact ⟨sound.program_eq, length.trans sound.tapes_length, seeded, sound.current_lt⟩
    · rename_i tapes found
      rw [found] at length seeded
      exact ⟨sound.program_eq, length.trans sound.tapes_length, seeded, sound.current_lt⟩

/-- What a start answers to an input without foreign symbols: the first symbol that is no tape symbol is
    refused. -/
theorem Sound.start_answer (sound : machine.Sound program) (wellFormed : program.WellFormed)
    {input : List Char} (known : program.foreignInput? input = none) :
    (machine.start input).2 =
      match (input.dropWhile program.tapeAlphabet.contains).head? with
      | some symbol => .error (.foreignSymbol symbol)
      | none => .ok .advanced := by
  have noForeign : machine.program.foreignInput? input = none := by
    rw [sound.program_eq]
    exact known
  obtain ⟨first, others, tapes⟩ := List.exists_cons_of_length_pos
    (Nat.lt_of_lt_of_eq wellFormed.tapes_pos sound.tapes_length.symm)
  have alphabet : first.alphabet = program.tapeAlphabet :=
    (sound.tapes_sound first (by simp [tapes])).alphabet_eq
  have refused : (first.insert input).2 =
      (input.dropWhile program.tapeAlphabet.contains).head? := by
    rw [Tape.insert, alphabet]
  rw [← refused]
  cases inserted : first.insert input with
  | mk tape symbol =>
      cases symbol with
      | some symbol =>
          have seeded : seed machine.tapes input = (tape :: others, some symbol) := by
            rw [tapes, seed, inserted]
          rw [(StartOutcome.refused noForeign seeded).start_eq]
      | none =>
          have seeded : seed machine.tapes input = (tape :: others.map Tape.pushBlank, none) := by
            rw [tapes, seed, inserted]
          rw [(StartOutcome.loaded noForeign seeded).start_eq]

theorem Sound.reset (sound : machine.Sound program) (wellFormed : program.WellFormed) :
    machine.reset.Sound program where
  program_eq := sound.program_eq
  tapes_length := by simpa [Machine.reset] using sound.tapes_length
  tapes_sound := fun tape mem => by
    obtain ⟨tape, tapeMem, rfl⟩ := List.mem_map.1 mem
    exact (sound.tapes_sound tape tapeMem).clear
  current_lt := by
    have initial := wellFormed.initial_lt
    rw [← sound.program_eq] at initial ⊢
    exact initial

/-- Every machine that has come of a well-formed program is sound. -/
theorem sound_of_reachable (wellFormed : program.WellFormed)
    (reachable : Reachable program machine) :
    machine.Sound program :=
  reachable.induction (sound_ofProgram wellFormed)
    (fun _ input sound => sound.start wellFormed input) (fun _ sound => sound.step wellFormed)
    (fun _ sound => sound.reset wellFormed)

/-! ### Nothing is looked up that is not there -/

/-- Whatever is done to the machine next finds what it looks up: a first tape to put an input on,
    the current state, a stored cell under every head once the tapes have been read, and the state
    that the next rule leads to. -/
structure InBounds (machine : Machine) : Prop where
  first_tape : 0 < machine.tapes.length
  current_state : machine.current < machine.program.states.length
  cells : ∀ tape ∈ machine.readTapes.tapes, tape.head < tape.cells.length
  target : ∀ transition, machine.nextRule? = some transition →
    transition.target < machine.program.states.length

theorem Sound.inBounds (sound : machine.Sound program) (wellFormed : program.WellFormed) :
    machine.InBounds where
  first_tape := by
    rw [sound.tapes_length]
    exact wellFormed.tapes_pos
  current_state := by
    rw [sound.program_eq]
    exact sound.current_lt
  cells := fun tape mem => by
    obtain ⟨tape, tapeMem, rfl⟩ := List.mem_map.1 mem
    have settled := (sound.tapes_sound tape tapeMem).settle wellFormed.blank_mem
    refine settled.head_inside.resolve_right fun empty => tape.settle_ahead_ne_nil ?_
    exact (List.append_eq_nil_iff.1 empty.1).2
  target := fun transition rule => by
    rw [sound.program_eq]
    exact (sound.fits_of_nextRule? wellFormed rule).target_lt

/-- The machine invariant. Whatever was done to the machine of a built program, it still has that
    program and a tape for each that is declared; every tape has the alphabet and the blank of the
    program, holds symbols of that alphabet and so no wildcard, and has its head on a stored cell or
    holds none; the current state is one of the program. So nothing is looked up in vain. -/
theorem machine_invariant_of_reachable {declarations : Declarations} {program : Program}
    {machine : Machine} (built : declarations.build = .ok program)
    (reachable : Reachable program machine) :
    machine.Sound program ∧ (∀ tape ∈ machine.tapes, wildcard ∉ tape.cells) ∧ machine.InBounds := by
  have wellFormed : program.WellFormed := wellFormed_of_build built
  have sound : machine.Sound program := sound_of_reachable wellFormed reachable
  have noWildcard : ∀ tape ∈ machine.tapes, wildcard ∉ tape.cells := fun tape mem =>
    (sound.tapes_sound tape mem).not_mem_cells wellFormed.wildcard_not_mem
  exact ⟨sound, noWildcard, sound.inBounds wellFormed⟩

/-- A history with a step before any start, an input that the tapes refuse halfway, one that is
    rejected, and a run on what these have left. -/
def troubledHistory : List Operation :=
  [.step, .start ['0', '.'], .step, .start ['0', 'x'], .start ['0'], .run 20 ['0', '1'], .step]

/-- The invariant after a troubled history. -/
theorem machine_invariant_after_troubledHistory :
    Declarations.marker.build = .ok Declarations.marker.program ∧
      Reachable Declarations.marker.program
        ((ofProgram Declarations.marker.program).performAll troubledHistory) ∧
      ((ofProgram Declarations.marker.program).performAll troubledHistory).Sound
        Declarations.marker.program ∧
      (∀ tape ∈ ((ofProgram Declarations.marker.program).performAll troubledHistory).tapes,
        wildcard ∉ tape.cells) ∧
      ((ofProgram Declarations.marker.program).performAll troubledHistory).InBounds :=
  ⟨Declarations.marker_build, ⟨troubledHistory, rfl⟩,
    machine_invariant_of_reachable Declarations.marker_build ⟨troubledHistory, rfl⟩⟩

end Machine

end Multitape
