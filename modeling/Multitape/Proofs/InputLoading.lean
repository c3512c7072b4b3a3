/-
Module: Multitape.Proofs.InputLoading
Purpose: What a start does, and what it leaves alone. An input is looked over twice: first for symbols that
  do not belong to it, before anything is done, and then for symbols that the tapes do not take, while it
  is put on the first of them. So there are three ends, the second of them in the middle of the input, and
  they are the same for a machine that is fresh, that runs or that has halted.
Main exports: FirstOf, Tape.Appended, Program.Foreign, seed_eq_refused, seed_eq_loaded,
  Machine.StartsExactly, start_has_three_outcomes
-/
import Multitape.Proofs.WarningMeanings

namespace Multitape

/-! ### First symbols -/

/-- A symbol of an input that is of some kind, and what stands before it, none of which is. -/
structure FirstOf (OfKind : Char → Prop) (input before : List Char) (symbol : Char) : Prop where
  parted : ∃ after, input = before ++ symbol :: after
  ofKind : OfKind symbol
  none_before : ∀ earlier ∈ before, ¬ OfKind earlier

/-- The symbol that a search finds is the first of its kind. -/
theorem firstOf_of_find? {OfKind : Char → Prop} {found : Char → Bool}
    (decides : ∀ symbol, found symbol = true ↔ OfKind symbol) {input : List Char} {symbol : Char}
    (search : input.find? found = some symbol) : ∃ before, FirstOf OfKind input before symbol := by
  obtain ⟨holds, before, after, parted, noneBefore⟩ := List.find?_eq_some_iff_append.1 search
  refine ⟨before, ⟨after, parted⟩, (decides symbol).1 holds, fun earlier mem ofKind => ?_⟩
  have passed := noneBefore earlier mem
  rw [(decides earlier).2 ofKind] at passed
  cases passed

/-! ### Tapes -/

namespace Tape

/-- A word has been appended to the cells of a tape. Nothing else about it has changed. -/
structure Appended (word : List Char) (before after : Tape) : Prop where
  cells_eq : after.cells = before.cells ++ word
  head_eq : after.head = before.head
  offset_eq : after.offset = before.offset
  alphabet_eq : after.alphabet = before.alphabet
  blank_eq : after.blank = before.blank

theorem appended (tape : Tape) (word : List Char) :
    tape.Appended word { tape with ahead := tape.ahead ++ word } where
  cells_eq := (List.append_assoc tape.behind.reverse tape.ahead word).symm
  head_eq := rfl
  offset_eq := rfl
  alphabet_eq := rfl
  blank_eq := rfl

theorem appended_pushBlank (tape : Tape) : tape.Appended [tape.blank] tape.pushBlank :=
  tape.appended [tape.blank]

variable {tape : Tape} {word before : List Char}

/-- A word of tape symbols is appended as it is. -/
theorem insert_eq_appended (known : ∀ symbol ∈ word, symbol ∈ tape.alphabet) :
    ∃ next, tape.insert word = (next, none) ∧ tape.Appended word next :=
  ⟨_, insert_eq_append known, tape.appended word⟩

/-- Of another word what stands before its first foreign symbol is appended. -/
theorem insert_eq_refused {symbol : Char} (first : FirstOf (· ∉ tape.alphabet) word before symbol) :
    ∃ next, tape.insert word = (next, some symbol) ∧ tape.Appended before next := by
  obtain ⟨after, rfl⟩ := first.parted
  have taken : ∀ earlier ∈ before, tape.alphabet.contains earlier = true := fun earlier mem =>
    Alphabet.contains_iff.2 (not_not.1 (first.none_before earlier mem))
  have stops : ¬ tape.alphabet.contains symbol = true := fun contained =>
    first.ofKind (Alphabet.contains_iff.1 contained)
  refine ⟨_, ?_, tape.appended before⟩
  rw [insert, List.takeWhile_append_of_pos taken, List.takeWhile_cons_of_neg stops,
    List.dropWhile_append_of_pos taken, List.dropWhile_cons_of_neg stops, List.append_nil]
  rfl

end Tape

/-! ### Inputs -/

/-- A symbol that belongs to no input of a program: neither an input symbol nor the wildcard. -/
def Program.Foreign (program : Program) (symbol : Char) : Prop :=
  symbol ≠ wildcard ∧ symbol ∉ program.inputAlphabet

instance (symbol : Char) (alphabet : Alphabet) : Decidable (symbol ∈ alphabet) :=
  inferInstanceAs (Decidable (symbol ∈ alphabet.symbols))

instance (program : Program) : DecidablePred program.Foreign := fun symbol =>
  inferInstanceAs (Decidable (symbol ≠ wildcard ∧ symbol ∉ program.inputAlphabet))

namespace Machine

variable {program : Program} {machine : Machine} {input : List Char}

/-- What is looked for in an input is its first foreign symbol. -/
theorem firstOf_foreignInput? {symbol : Char} (found : program.foreignInput? input = some symbol) :
    ∃ before, FirstOf program.Foreign input before symbol := by
  refine firstOf_of_find? (fun other => ?_) found
  rw [Program.Foreign, Bool.and_eq_true, bne_iff_ne, Bool.not_eq_true', ← Bool.not_eq_true,
    Alphabet.contains_iff]

theorem foreignInput?_eq_none_iff_forall :
    program.foreignInput? input = none ↔ ∀ symbol ∈ input, ¬ program.Foreign symbol := by
  rw [Program.foreignInput?_eq_none_iff]
  refine forall₂_congr fun symbol _ => ?_
  rw [Program.Foreign, not_and_or, not_not, not_not, or_comm]

/-! ### Rows of tapes -/

section Seed

variable {first : Tape} {alphabet : Alphabet} {blank : Char}

/-- An input that the first tape refuses is put on it up to the symbol refused, and on no other. -/
theorem seed_eq_refused (sound : first.Sound alphabet blank) {before : List Char} {symbol : Char}
    (others : List Tape) (refused : FirstOf (· ∉ alphabet) input before symbol) :
    ∃ next, seed (first :: others) input = (next :: others, some symbol) ∧
      first.Appended before next := by
  rw [← sound.alphabet_eq] at refused
  obtain ⟨next, inserted, appended⟩ := Tape.insert_eq_refused refused
  refine ⟨next, ?_, appended⟩
  rw [seed, inserted]

/-- Any other input is put on the first tape as a whole, and a blank on every other one. -/
theorem seed_eq_loaded {others : List Tape} (sound : ∀ tape ∈ first :: others, tape.Sound alphabet blank)
    (known : ∀ symbol ∈ input, symbol ∈ alphabet) :
    ∃ next nexts, seed (first :: others) input = (next :: nexts, none) ∧
      first.Appended input next ∧ List.Forall₂ (Tape.Appended [blank]) others nexts := by
  obtain ⟨firstSound, othersSound⟩ := List.forall_mem_cons.1 sound
  rw [← firstSound.alphabet_eq] at known
  obtain ⟨next, inserted, appended⟩ := Tape.insert_eq_appended known
  refine ⟨next, others.map Tape.pushBlank, ?_, appended, ?_⟩
  · rw [seed, inserted]
  · rw [List.forall₂_map_right_iff, List.forall₂_same]
    intro tape mem
    rw [← (othersSound tape mem).blank_eq]
    exact tape.appended_pushBlank

end Seed

/-! ### The three outcomes -/

/-- What a start does to a machine of a program. Every input is of one of three kinds, and of each kind it
    is said what is answered and what has become of the machine: whatever is not named has not changed. -/
structure StartsExactly (program : Program) (machine : Machine) (input : List Char) : Prop where
  /-- An input with a foreign symbol halts the machine, and the first of them is told. -/
  rejected : (∃ symbol ∈ input, program.Foreign symbol) →
    machine.isValidInput input = false ∧
    ∃ before symbol, FirstOf program.Foreign input before symbol ∧
      machine.start input = (machine.haltWith (.rejected (.foreignInput symbol)),
        .ok (.halted (.rejected (.foreignInput symbol))))
  /-- An input with a symbol that only the tapes refuse is put on the first tape as far as it goes. -/
  refused : (∀ symbol ∈ input, ¬ program.Foreign symbol) →
    (∃ symbol ∈ input, symbol ∉ program.tapeAlphabet) →
    machine.isValidInput input = true ∧
    ∃ before symbol first others next, FirstOf (· ∉ program.tapeAlphabet) input before symbol ∧
      machine.tapes = first :: others ∧ first.Appended before next ∧
      machine.start input = ({ machine with tapes := next :: others, status := .idle },
        .error (.foreignSymbol symbol))
  /-- Any other input is loaded. -/
  loaded : (∀ symbol ∈ input, ¬ program.Foreign symbol) →
    (∀ symbol ∈ input, symbol ∈ program.tapeAlphabet) →
    machine.isValidInput input = true ∧
    ∃ first others next nexts, machine.tapes = first :: others ∧ first.Appended input next ∧
      List.Forall₂ (Tape.Appended [program.blank]) others nexts ∧
      machine.start input = ({ machine with tapes := next :: nexts, status := .running },
        .ok .advanced)

/-- A sound machine has a first tape. -/
theorem Sound.exists_first_tape (sound : machine.Sound program) (wellFormed : program.WellFormed) :
    ∃ first others, machine.tapes = first :: others :=
  List.exists_cons_of_length_pos (Nat.lt_of_lt_of_eq wellFormed.tapes_pos sound.tapes_length.symm)

/-- An input is valid if it has no foreign symbol. -/
theorem Sound.isValidInput_eq (sound : machine.Sound program) :
    machine.isValidInput input = (program.foreignInput? input).isNone := by
  rw [isValidInput, sound.program_eq]

theorem Sound.startsExactly (sound : machine.Sound program) (wellFormed : program.WellFormed)
    (input : List Char) : StartsExactly program machine input where
  rejected := by
    rintro ⟨other, mem, foreign⟩
    cases found : program.foreignInput? input with
    | none => exact absurd foreign (foreignInput?_eq_none_iff_forall.1 found other mem)
    | some symbol =>
        obtain ⟨before, first⟩ := firstOf_foreignInput? found
        refine ⟨by rw [sound.isValidInput_eq, found]; rfl, before, symbol, first, ?_⟩
        rw [← sound.program_eq] at found
        exact (StartOutcome.foreign found).start_eq
  refused := by
    intro valid foreign
    have known := foreignInput?_eq_none_iff_forall.2 valid
    refine ⟨by rw [sound.isValidInput_eq, known]; rfl, ?_⟩
    obtain ⟨before, symbol, after, parted, inside, outside, -⟩ := exists_first_foreign foreign
    have refused : FirstOf (· ∉ program.tapeAlphabet) input before symbol :=
      ⟨⟨after, parted⟩, outside, fun earlier mem => not_not.2 (inside earlier mem)⟩
    obtain ⟨first, others, tapes⟩ := sound.exists_first_tape wellFormed
    have firstSound := sound.tapes_sound first (tapes ▸ List.mem_cons_self)
    obtain ⟨next, seeded, appended⟩ := seed_eq_refused firstSound others refused
    refine ⟨before, symbol, first, others, next, refused, tapes, appended, ?_⟩
    rw [← sound.program_eq] at known
    rw [← tapes] at seeded
    exact (StartOutcome.refused known seeded).start_eq
  loaded := by
    intro valid onTape
    have known := foreignInput?_eq_none_iff_forall.2 valid
    refine ⟨by rw [sound.isValidInput_eq, known]; rfl, ?_⟩
    obtain ⟨first, others, tapes⟩ := sound.exists_first_tape wellFormed
    obtain ⟨next, nexts, seeded, appended, pushed⟩ :=
      seed_eq_loaded (tapes ▸ sound.tapes_sound) onTape
    refine ⟨first, others, next, nexts, tapes, appended, pushed, ?_⟩
    rw [← sound.program_eq] at known
    rw [← tapes] at seeded
    exact (StartOutcome.loaded known seeded).start_eq

/-- No tape takes the wildcard, so an input with one is not loaded. -/
theorem StartsExactly.not_loaded (starts : StartsExactly program machine input)
    (wellFormed : program.WellFormed) (wild : wildcard ∈ input) :
    (machine.start input).2 ≠ .ok .advanced := by
  have foreign : ∃ symbol ∈ input, symbol ∉ program.tapeAlphabet :=
    ⟨wildcard, wild, wellFormed.wildcard_not_mem⟩
  -- The tapes refuse it if nothing else does, but a foreign symbol is found before they are asked.
  by_cases valid : ∀ symbol ∈ input, ¬ program.Foreign symbol
  · obtain ⟨-, _, symbol, _, _, _, -, -, -, started⟩ := starts.refused valid foreign
    rw [started]
    intro same
    cases same
  · push Not at valid
    obtain ⟨-, _, symbol, -, started⟩ := starts.rejected valid
    rw [started]
    intro same
    cases same

/-- A start has exactly three outcomes. Whatever was done to the machine of a built program before, an
    input with a symbol that is neither an input symbol nor the wildcard halts it, untouched, and tells
    the first such symbol; of another one with a symbol that is no tape symbol, the first tape gets what
    stands before the first such symbol, which is told, and the machine is idle; and any other input is
    put on the first tape, a blank on each of the others, and the machine runs. An input with a wildcard
    is never loaded. -/
theorem start_has_three_outcomes {declarations : Declarations}
    (built : declarations.build = .ok program) (reachable : Reachable program machine)
    (input : List Char) :
    StartsExactly program machine input ∧
      (wildcard ∈ input → (machine.start input).2 ≠ .ok .advanced) := by
  have wellFormed : program.WellFormed := wellFormed_of_build built
  have starts : StartsExactly program machine input :=
    (sound_of_reachable wellFormed reachable).startsExactly wellFormed input
  exact ⟨starts, starts.not_loaded wellFormed⟩

open Declarations (marker)

/-- The machine that marks zeros after a troubled history, which has halted on used tapes. -/
def usedMarker : Machine := (ofProgram marker.program).performAll troubledHistory

/-- It rejects an input for its first foreign symbol, also where a wildcard stands before it, refuses one at
    its wildcard, and loads one that has neither behind what stands on its tapes. -/
theorem start_has_three_outcomes_for_usedMarker :
    marker.build = .ok marker.program ∧ Reachable marker.program usedMarker ∧
      usedMarker.halt?.isSome = true ∧
      usedMarker.tapes.map Tape.cells = [['_', '0', '0', '0', '1'], ['_', '_', '_', '_']] ∧
      (∃ before symbol, FirstOf marker.program.Foreign ['0', '.', 'x', 'y'] before symbol ∧
        (usedMarker.start ['0', '.', 'x', 'y']).1 =
          usedMarker.haltWith (.rejected (.foreignInput symbol))) ∧
      (∃ before symbol, FirstOf (· ∉ marker.program.tapeAlphabet) ['0', '.', '1'] before symbol ∧
        (usedMarker.start ['0', '.', '1']).2 = .error (.foreignSymbol symbol)) ∧
      (usedMarker.start ['0', '.', '1']).1.tapes.map Tape.cells =
        [['_', '0', '0', '0', '1', '0'], ['_', '_', '_', '_']] ∧
      (usedMarker.start ['0', '1']).2 = .ok .advanced ∧
      (usedMarker.start ['0', '1']).1.tapes.map Tape.cells =
        [['_', '0', '0', '0', '1', '0', '1'], ['_', '_', '_', '_', '_']] := by
  have built : marker.build = .ok marker.program := Declarations.marker_build
  have reachable : Reachable marker.program usedMarker := ⟨troubledHistory, rfl⟩
  have rejects := (start_has_three_outcomes built reachable ['0', '.', 'x', 'y']).1
  have refuses := (start_has_three_outcomes built reachable ['0', '.', '1']).1
  have loads := (start_has_three_outcomes built reachable ['0', '1']).1
  obtain ⟨-, before, symbol, first, rejected⟩ := rejects.rejected ⟨'x', by decide, by decide⟩
  obtain ⟨-, stays, wild, _, _, _, refusal, -, -, refused⟩ :=
    refuses.refused (foreignInput?_eq_none_iff_forall.1 rfl) ⟨'.', by decide, by decide⟩
  have onTape : ∀ symbol ∈ ['0', '1'], symbol ∈ marker.program.tapeAlphabet := by
    rw [List.forall_mem_cons, List.forall_mem_singleton]
    exact ⟨by decide, by decide⟩
  obtain ⟨-, _, _, _, _, -, -, -, loaded⟩ :=
    loads.loaded (foreignInput?_eq_none_iff_forall.1 rfl) onTape
  refine ⟨built, reachable, rfl, rfl, ⟨before, symbol, first, ?_⟩, ⟨stays, wild, refusal, ?_⟩, rfl, ?_,
    rfl⟩
  · rw [rejected]
  · rw [refused]
  · rw [loaded]

end Machine

end Multitape
