/-
Module: Multitape.Proofs.InputReach
Purpose: A run does not depend on a part of the input that it has not had the time to come to. A head goes
  one cell at a time, so after some steps it has not been beyond the cell of that number. The
  simulation relation is `Machine.SharesUpTo`: both machines are in one situation, but for the cells of
  the first tape beyond a place. A step keeps it as long as the head has not passed that place, and
  the endless tapes leave no difference between a blank that is stored and one that is not.
Main exports: InfiniteTape.SharesUpTo, Configuration.TapesShare, TapesShare.act, Machine.SharesUpTo,
  SharesUpTo.inStep, SharesUpTo.stepTimes, Machine.ShowsAlike, sharesUpTo_started, letters_of_loaded,
  start_append_of_not_loaded, AlikeWithin, AlwaysAlike, reach_bounds_influence,
  symbols_differ_at_reach
-/
import Multitape.Proofs.Lockstep
import Multitape.Proofs.TextbookMachine

namespace Multitape

/-! ### Endless tapes -/

namespace InfiniteTape

/-- Two endless tapes have their heads at one place and the same cells up to a place. -/
structure SharesUpTo (reach : Int) (first second : InfiniteTape) : Prop where
  head_eq : second.head = first.head
  cell_eq : ∀ place ≤ reach, second.cell place = first.cell place

variable {reach : Int} {first second : InfiniteTape}

/-- A head that has not gone beyond the shared cells reads the same on both. -/
theorem SharesUpTo.read_eq (shares : first.SharesUpTo reach second) (inside : first.head ≤ reach) :
    second.read = first.read := by
  unfold read
  rw [shares.head_eq]
  exact shares.cell_eq first.head inside

theorem SharesUpTo.write (shares : first.SharesUpTo reach second) (symbol : Char) :
    (first.write symbol).SharesUpTo reach (second.write symbol) where
  head_eq := shares.head_eq
  cell_eq := by
    intro place inside
    simp only [InfiniteTape.write, shares.head_eq, shares.cell_eq place inside]

theorem SharesUpTo.shift (shares : first.SharesUpTo reach second) (direction : Direction) :
    (first.shift direction).SharesUpTo reach (second.shift direction) where
  head_eq := congrArg (· + displacement direction) shares.head_eq
  cell_eq := shares.cell_eq

/-- A move takes a head one cell to the right at most. -/
theorem head_shift_le (tape : InfiniteTape) (direction : Direction) :
    (tape.shift direction).head ≤ tape.head + 1 := by
  cases direction with
  | left => exact Int.add_le_add_left (by decide) tape.head
  | right => exact Int.le_refl _
  | stay => exact Int.add_le_add_left (by decide) tape.head

/-- Words that are the same up to a place, with blanks after their ends, make tapes that are. -/
theorem sharesUpTo_ofWord {blank : Char} {word other : List Char} {reach : Nat}
    (same : ∀ place ≤ reach, word[place]?.getD blank = other[place]?.getD blank) :
    (ofWord blank word).SharesUpTo reach (ofWord blank other) where
  head_eq := rfl
  cell_eq := by
    intro place inside
    simp only [ofWord]
    split
    · exact (same place.toNat (Int.toNat_le.2 inside)).symm
    · rfl

end InfiniteTape

/-! ### Rows of endless tapes -/

namespace Configuration

/-- Two rows of endless tapes differ on the first tape at most, and there beyond a place only. The head of
    that tape has not gone beyond another place. -/
inductive TapesShare (reach bound : Int) : List InfiniteTape → List InfiniteTape → Prop where
  | intro {first second : InfiniteTape} (shares : first.SharesUpTo reach second)
      (bounded : first.head ≤ bound) (others : List InfiniteTape) :
      TapesShare reach bound (first :: others) (second :: others)

variable {reach bound : Int} {tapes others : List InfiniteTape}

theorem TapesShare.mono {further : Int} (share : TapesShare reach bound tapes others)
    (lower : bound ≤ further) : TapesShare reach further tapes others := by
  cases share with
  | intro shares bounded rest => exact .intro shares (Int.le_trans bounded lower) rest

theorem TapesShare.heads_eq (share : TapesShare reach bound tapes others) :
    others.map InfiniteTape.head = tapes.map InfiniteTape.head := by
  cases share with
  | intro shares bounded rest => simp only [List.map_cons, shares.head_eq]

/-- On all tapes but the first the same is scanned. -/
theorem TapesShare.scanned_tail_eq (share : TapesShare reach bound tapes others) :
    (others.map InfiniteTape.read).tail = (tapes.map InfiniteTape.read).tail := by
  cases share with
  | intro shares bounded rest => rfl

theorem TapesShare.head_le (share : TapesShare reach bound tapes others) :
    ∀ head ∈ (tapes.map InfiniteTape.head).head?, head ≤ bound := by
  cases share with
  | intro shares bounded rest =>
      intro head standing
      obtain rfl := Option.some.inj standing
      exact bounded

/-- As long as the head of the first tape stands on a shared cell, the same is scanned on all. -/
theorem TapesShare.scanned_eq (share : TapesShare reach bound tapes others)
    (inside : ∀ head ∈ (tapes.map InfiniteTape.head).head?, head ≤ reach) :
    others.map InfiniteTape.read = tapes.map InfiniteTape.read := by
  cases share with
  | intro shares bounded rest =>
      have same := shares.read_eq (inside _ rfl)
      simp only [List.map_cons, same]

/-- A rule does to both rows the same, and takes the head of the first tape one cell further at most. -/
theorem TapesShare.act {transition : Transition} (share : TapesShare reach bound tapes others)
    (writes : transition.write.length = tapes.length)
    (moves : transition.directions.length = tapes.length) :
    TapesShare reach (bound + 1) (act transition tapes) (act transition others) := by
  cases share with
  | @intro first second shares bounded rest =>
      obtain ⟨symbol, symbols, written⟩ := List.exists_cons_of_length_eq_add_one writes
      obtain ⟨direction, directions, moved⟩ := List.exists_cons_of_length_eq_add_one moves
      have acted : ∀ tape, Configuration.act transition (tape :: rest) =
          (tape.write symbol).shift direction ::
            (rest.zip (symbols.zip directions)).map fun entry =>
              (entry.1.write entry.2.1).shift entry.2.2 := by
        intro tape
        simp only [Configuration.act, written, moved, List.zip_cons_cons, List.map_cons]
      rw [acted, acted]
      refine .intro ((shares.write symbol).shift direction) ?_ _
      have further := (first.write symbol).head_shift_le direction
      have stands : (first.write symbol).head ≤ bound := bounded
      omega

/-- Two inputs that are the same up to a place start with rows that are. -/
theorem tapesShare_initial {program : Program} (tapes : 0 < program.tapeCount)
    {word other : List Char} {reach : Nat}
    (same : ∀ place ≤ reach, word[place]?.getD program.blank = other[place]?.getD program.blank) :
    TapesShare reach 0 (initial program word).tapes (initial program other).tapes := by
  obtain ⟨others, count⟩ := Nat.exists_eq_add_one_of_ne_zero (Nat.ne_of_gt tapes)
  simp only [initial, count, List.range_succ_eq_map, List.map_cons, List.map_map,
    Function.comp_def, Nat.succ_ne_zero, if_false, if_true]
  exact .intro (InfiniteTape.sharesUpTo_ofWord same) (Int.le_refl 0) _

end Configuration

/-! ### Machines -/

/-- What follows a refused symbol is not looked at. -/
theorem Tape.insert_append_of_refused {tape : Tape} {word : List Char} {symbol : Char}
    (refused : (tape.insert word).2 = some symbol) (more : List Char) :
    tape.insert (word ++ more) = tape.insert word := by
  unfold Tape.insert at refused ⊢
  obtain ⟨others, rest⟩ := List.head?_eq_some_iff.1 refused
  have stopped : (word.takeWhile tape.alphabet.contains).length ≠ word.length := by
    intro whole
    have split := congrArg List.length
      (List.takeWhile_append_dropWhile (p := tape.alphabet.contains) (l := word))
    rw [List.length_append, whole, rest, List.length_cons] at split
    omega
  rw [List.takeWhile_append, if_neg stopped, List.dropWhile_append, rest]
  rfl

namespace Machine

open Multitape.Configuration

variable {program : Program} {reach count : Nat} {first second : Machine}

/-- Two machines of a program are in one situation, but for the cells of the first tape beyond a place.
    The head of that tape has not gone beyond another place. -/
structure SharesUpTo (program : Program) (reach bound : Nat) (first second : Machine) : Prop where
  first_sound : first.Sound program
  second_sound : second.Sound program
  current_eq : second.current = first.current
  lastTransition_eq : second.lastTransition = first.lastTransition
  stepCount_eq : second.stepCount = first.stepCount
  status_eq : second.status = first.status
  tapes_share : TapesShare reach bound first.configuration.tapes second.configuration.tapes

theorem map_head_configuration (machine : Machine) :
    machine.configuration.tapes.map InfiniteTape.head = machine.tapes.map Tape.position := by
  simp [configuration, Function.comp_def]

namespace SharesUpTo

theorem currentState_eq (shares : SharesUpTo program reach count first second) :
    second.currentState = first.currentState := by
  rw [currentState, currentState, shares.second_sound.program_eq, shares.first_sound.program_eq,
    shares.current_eq]

/-- The same stands under the heads, as long as that of the first tape is on a shared cell. -/
theorem symbols_eq_of_inside (shares : SharesUpTo program reach count first second)
    (inside : ∀ position ∈ (first.tapes.map Tape.position).head?, position ≤ reach) :
    second.symbols = first.symbols := by
  rw [← scanned_configuration, ← scanned_configuration]
  rw [← map_head_configuration] at inside
  exact shares.tapes_share.scanned_eq inside

/-- The head of the first tape has not gone further than steps were made. -/
theorem position_le (shares : SharesUpTo program reach count first second) :
    ∀ position ∈ (first.tapes.map Tape.position).head?, position ≤ count := by
  rw [← map_head_configuration]
  exact shares.tapes_share.head_le

theorem symbols_eq (shares : SharesUpTo program reach count first second) (inside : count ≤ reach) :
    second.symbols = first.symbols :=
  shares.symbols_eq_of_inside fun position standing =>
    Int.le_trans (shares.position_le position standing) (Int.ofNat_le.2 inside)

/-- What stands under the heads can differ on the first tape only. -/
theorem symbols_tail_eq (shares : SharesUpTo program reach count first second) :
    second.symbols.tail = first.symbols.tail := by
  rw [← scanned_configuration, ← scanned_configuration]
  exact shares.tapes_share.scanned_tail_eq

/-- Reading the tapes changes nothing, and the status may be given to both. -/
theorem readTapes (shares : SharesUpTo program reach count first second)
    (wellFormed : program.WellFormed) (status : Status) :
    SharesUpTo program reach (count + 1) { first.readTapes with status := status }
      { second.readTapes with status := status } := by
  have firstRead := shares.first_sound.readTapes wellFormed
  have secondRead := shares.second_sound.readTapes wellFormed
  refine ⟨firstRead.withStatus status, secondRead.withStatus status, shares.current_eq,
    shares.lastTransition_eq, shares.stepCount_eq, rfl, ?_⟩
  have share : TapesShare reach count first.readTapes.configuration.tapes
      second.readTapes.configuration.tapes := by
    rw [configuration_readTapes, configuration_readTapes]
    exact shares.tapes_share
  exact share.mono (Int.ofNat_le.2 (Nat.le_succ count))

/-- A rule that fits keeps both machines in one situation. -/
theorem apply (shares : SharesUpTo program reach count first second)
    (wellFormed : program.WellFormed) {transition : Transition} (fits : program.Fits transition)
    (status : Status) :
    SharesUpTo program reach (count + 1)
      { first.readTapes.apply transition with status := status }
      { second.readTapes.apply transition with status := status } := by
  have firstApplied := (shares.first_sound.readTapes wellFormed).apply wellFormed fits
  have secondApplied := (shares.second_sound.readTapes wellFormed).apply wellFormed fits
  refine ⟨firstApplied.withStatus status, secondApplied.withStatus status, rfl, rfl,
    congrArg (· + 1) shares.stepCount_eq, rfl, ?_⟩
  have tapes : first.configuration.tapes.length = program.tapeCount :=
    (List.length_map Tape.view).trans shares.first_sound.tapes_length
  have share := shares.tapes_share.act (fits.write_length.trans tapes.symm)
    (fits.directions_length.trans tapes.symm)
  have applied : ∀ {machine : Machine}, machine.Sound program →
      (machine.readTapes.apply transition).configuration.tapes =
        act transition machine.configuration.tapes := by
    intro machine sound
    rw [sound.configuration_apply wellFormed fits]
  rw [← applied shares.first_sound, ← applied shares.second_sound] at share
  exact share

/-- As long as the head of the first tape stands on a shared cell, both machines take the same rule. -/
theorem inStep (shares : SharesUpTo program reach count first second)
    (wellFormed : program.WellFormed) (inside : count ≤ reach) :
    InStep id (SharesUpTo program reach (count + 1)) first second := by
  have symbols := shares.symbols_eq inside
  have rule : second.nextRule? = first.nextRule? := by
    rw [nextRule?, nextRule?, shares.currentState_eq, symbols]
  have further : (count : Int) ≤ (count + 1 : Nat) := Int.ofNat_le.2 (Nat.le_succ count)
  refine ⟨{ shares with tapes_share := shares.tapes_share.mono further }, ?_, ?_, ?_⟩
  · rw [Status.retell_id]
    exact shares.status_eq
  · intro _ _
    refine ⟨?_, fun status => ?_⟩
    · rw [Halt.retell_id, stuckHalt, stuckHalt, shares.currentState_eq, symbols]
    · rw [Status.retell_id]
      exact shares.readTapes wellFormed status
  · intro _
    rw [rule]
    cases found : first.nextRule? with
    | none => exact .none
    | some transition =>
        have fits := shares.first_sound.fits_of_nextRule? wellFormed found
        refine .some ⟨?_, fun status => ?_⟩
        · rw [shares.second_sound.program_eq, shares.first_sound.program_eq]
        · rw [Status.retell_id]
          exact shares.apply wellFormed fits status

/-- So they do for as many steps as the head needs to pass the shared cells. -/
theorem stepTimes (shares : SharesUpTo program reach 0 first second)
    (wellFormed : program.WellFormed) (within : count ≤ reach + 1) :
    SharesUpTo program reach count (stepTimes count first) (stepTimes count second) :=
  related_stepTimes
    (fun _ below _ _ before => before.inStep wellFormed (Nat.le_of_lt_succ below)) shares within

end SharesUpTo

/-! ### What shows of them -/

/-- Two machines have the same state, rule, counter and status, and their heads at the same places. -/
structure ShowsAlike (first second : Machine) : Prop where
  current_eq : second.current = first.current
  lastTransition_eq : second.lastTransition = first.lastTransition
  stepCount_eq : second.stepCount = first.stepCount
  status_eq : second.status = first.status
  positions_eq : second.tapes.map Tape.position = first.tapes.map Tape.position

theorem ShowsAlike.refl (machine : Machine) : machine.ShowsAlike machine := ⟨rfl, rfl, rfl, rfl, rfl⟩

theorem SharesUpTo.showsAlike (shares : SharesUpTo program reach count first second) :
    first.ShowsAlike second where
  current_eq := shares.current_eq
  lastTransition_eq := shares.lastTransition_eq
  stepCount_eq := shares.stepCount_eq
  status_eq := shares.status_eq
  positions_eq := by
    rw [← map_head_configuration, ← map_head_configuration]
    exact shares.tapes_share.heads_eq

/-! ### Starts -/

/-- A start that loads an input puts something on the tapes and changes nothing else. -/
theorem eq_of_started {machine next : Machine} {input : List Char}
    (started : machine.start input = (next, .ok .advanced)) :
    ∃ tapes, next = { machine with tapes := tapes, status := .running } := by
  have outcome := machine.start_outcome input
  rw [started] at outcome
  cases outcome with
  | loaded known seeded => exact ⟨_, rfl⟩

/-- Two inputs that are the same up to a place put fresh machines in one situation. -/
theorem sharesUpTo_started (wellFormed : program.WellFormed) {word other : List Char}
    (letters : ∀ symbol ∈ word, symbol ∈ program.inputAlphabet ∧ symbol ∈ program.tapeAlphabet)
    (otherLetters : ∀ symbol ∈ other,
      symbol ∈ program.inputAlphabet ∧ symbol ∈ program.tapeAlphabet)
    (same : ∀ place ≤ reach, word[place]?.getD program.blank = other[place]?.getD program.blank) :
    ∃ next last, (ofProgram program).start word = (next, .ok .advanced) ∧
      (ofProgram program).start other = (last, .ok .advanced) ∧
      SharesUpTo program reach 0 next last := by
  obtain ⟨next, started, live, stands⟩ := start_refines wellFormed letters
  obtain ⟨last, otherStarted, otherLive, otherStands⟩ := start_refines wellFormed otherLetters
  refine ⟨next, last, started, otherStarted, ?_⟩
  have share := tapesShare_initial wellFormed.tapes_pos same
  rw [← stands, ← otherStands] at share
  obtain ⟨tapes, rfl⟩ := eq_of_started started
  obtain ⟨otherTapes, rfl⟩ := eq_of_started otherStarted
  exact ⟨live.sound, otherLive.sound, rfl, rfl, rfl, rfl, share⟩

/-- An input that a fresh machine loads is over both alphabets. -/
theorem letters_of_loaded (wellFormed : program.WellFormed) {word : List Char}
    (loaded : ((ofProgram program).start word).2 = .ok .advanced) :
    ∀ symbol ∈ word, symbol ∈ program.inputAlphabet ∧ symbol ∈ program.tapeAlphabet := by
  have known : program.foreignInput? word = none := by
    have outcome := (ofProgram program).start_outcome word
    rw [loaded] at outcome
    generalize ((ofProgram program).start word).1 = next at outcome
    cases outcome with
    | loaded known seeded => exact known
  have onTape : ∀ symbol ∈ word, symbol ∈ program.tapeAlphabet := by
    have answer := (sound_ofProgram wellFormed).start_answer wellFormed known
    rw [loaded] at answer
    cases rest : word.dropWhile program.tapeAlphabet.contains with
    | cons symbol others =>
        rw [rest] at answer
        cases answer
    | nil =>
        intro symbol mem
        exact Alphabet.contains_iff.1 (List.dropWhile_eq_nil_iff.1 rest symbol mem)
  intro symbol mem
  refine ⟨(Program.foreignInput?_eq_none_iff.1 known symbol mem).resolve_right ?_, onTape symbol mem⟩
  intro wild
  exact wellFormed.wildcard_not_mem (wild ▸ onTape symbol mem)

/-- What follows a refused symbol is not looked at. -/
theorem seed_append_of_refused {tapes seeded : List Tape} {word : List Char} {symbol : Char}
    (refused : seed tapes word = (seeded, some symbol)) (more : List Char) :
    seed tapes (word ++ more) = (seeded, some symbol) := by
  cases tapes with
  | nil => cases refused
  | cons first others =>
      have inserted : (first.insert word).2 = some symbol := by
        have told : (seed (first :: others) word).2 = (first.insert word).2 := by
          rw [seed]
          rcases first.insert word with ⟨tape, _ | other⟩ <;> rfl
        rw [← told, refused]
      rw [← refused, seed, seed, first.insert_append_of_refused inserted]

/-- What is appended to an input that is not loaded does not matter, if it has no foreign symbol. -/
theorem start_append_of_not_loaded {machine : Machine} {word more : List Char}
    (known : ∀ symbol ∈ more, symbol ∈ machine.program.inputAlphabet)
    (notLoaded : (machine.start word).2 ≠ .ok .advanced) :
    machine.start (word ++ more) = machine.start word := by
  have appended : machine.program.foreignInput? (word ++ more) =
      machine.program.foreignInput? word := by
    have none := foreignInput?_eq_none known
    unfold Program.foreignInput? at none ⊢
    rw [List.find?_append, none, Option.or_none]
  have outcome := machine.start_outcome word
  generalize started : machine.start word = answer at outcome notLoaded ⊢
  obtain ⟨next, result⟩ := answer
  cases outcome with
  | foreign found => exact (StartOutcome.foreign (appended.trans found)).start_eq
  | loaded => exact absurd rfl notLoaded
  | refused knownWord seeded =>
      have same := seed_append_of_refused seeded more
      exact (StartOutcome.refused (appended.trans knownWord) same).start_eq

/-! ### Inputs that cannot be told apart -/

/-- Two inputs are loaded alike, as many steps as it takes to come to a place, and one more, answer alike,
    and after each of them the machines show alike. So do the symbols under the heads, except where the
    last of these steps has brought the head of the first tape beyond that place: there they may
    differ on this tape. -/
structure AlikeWithin (program : Program) (reach : Nat) (word other : List Char) : Prop where
  word_loaded : ((ofProgram program).start word).2 = .ok .advanced
  other_loaded : ((ofProgram program).start other).2 = .ok .advanced
  step_eq : ∀ count ≤ reach,
    (stepTimes count ((ofProgram program).start other).1).step.2 =
      (stepTimes count ((ofProgram program).start word).1).step.2
  shows_alike : ∀ count ≤ reach + 1,
    (stepTimes count ((ofProgram program).start word).1).ShowsAlike
      (stepTimes count ((ofProgram program).start other).1)
  symbols_eq : ∀ count ≤ reach,
    (stepTimes count ((ofProgram program).start other).1).symbols =
      (stepTimes count ((ofProgram program).start word).1).symbols
  last_symbols_tail_eq :
    (stepTimes (reach + 1) ((ofProgram program).start other).1).symbols.tail =
      (stepTimes (reach + 1) ((ofProgram program).start word).1).symbols.tail
  last_symbols_eq :
    ((stepTimes (reach + 1) ((ofProgram program).start word).1).tapes.map Tape.position).head? ≠
        some (reach + 1 : Int) →
      (stepTimes (reach + 1) ((ofProgram program).start other).1).symbols =
        (stepTimes (reach + 1) ((ofProgram program).start word).1).symbols

/-- Two inputs are started alike, all steps answer alike, after each the machines show alike and the
    same symbols stand under the heads, and runs come to the same answer. -/
structure AlwaysAlike (program : Program) (word other : List Char) : Prop where
  start_eq : ((ofProgram program).start other).2 = ((ofProgram program).start word).2
  step_eq : ∀ count,
    (stepTimes count ((ofProgram program).start other).1).step.2 =
      (stepTimes count ((ofProgram program).start word).1).step.2
  shows_alike : ∀ count,
    (stepTimes count ((ofProgram program).start word).1).ShowsAlike
      (stepTimes count ((ofProgram program).start other).1)
  symbols_eq : ∀ count,
    (stepTimes count ((ofProgram program).start other).1).symbols =
      (stepTimes count ((ofProgram program).start word).1).symbols
  run_eq : ∀ limit, ((ofProgram program).run limit other).map Run.result =
    ((ofProgram program).run limit word).map Run.result

section Inputs

variable {word other : List Char}

/-- Inputs that are the same up to a place cannot be told apart before the head has passed it. -/
theorem alikeWithin_of_same (wellFormed : program.WellFormed)
    (letters : ∀ symbol ∈ word, symbol ∈ program.inputAlphabet ∧ symbol ∈ program.tapeAlphabet)
    (otherLetters : ∀ symbol ∈ other,
      symbol ∈ program.inputAlphabet ∧ symbol ∈ program.tapeAlphabet)
    (same : ∀ place ≤ reach, word[place]?.getD program.blank = other[place]?.getD program.blank) :
    AlikeWithin program reach word other := by
  obtain ⟨next, last, started, otherStarted, shares⟩ :=
    sharesUpTo_started wellFormed letters otherLetters same
  constructor <;> simp only [started, otherStarted]
  case step_eq =>
    intro count within
    have stepped := shares.stepTimes wellFormed (Nat.le_succ_of_le within)
    have answers := (stepped.inStep wellFormed within).step.1
    rwa [Step.retell_id] at answers
  case shows_alike =>
    intro count within
    exact (shares.stepTimes wellFormed within).showsAlike
  case symbols_eq =>
    intro count within
    exact (shares.stepTimes wellFormed (Nat.le_succ_of_le within)).symbols_eq within
  case last_symbols_tail_eq =>
    exact (shares.stepTimes wellFormed (Nat.le_refl _)).symbols_tail_eq
  case last_symbols_eq =>
    -- The head is on the cell after the place at most, and it is not on that one.
    intro elsewhere
    have stepped := shares.stepTimes wellFormed (Nat.le_refl _)
    apply stepped.symbols_eq_of_inside
    intro position standing
    have bounded := stepped.position_le position standing
    have different : position ≠ (reach + 1 : Int) := by
      intro here
      exact elsewhere (here ▸ standing)
    omega

/-- Inputs that cannot be told apart within any number of steps never can. -/
theorem alwaysAlike_of_forall_within (alike : ∀ reach, AlikeWithin program reach word other) :
    AlwaysAlike program word other where
  start_eq := (alike 0).other_loaded.trans (alike 0).word_loaded.symm
  step_eq := fun count => (alike count).step_eq count (Nat.le_refl count)
  shows_alike := fun count => (alike count).shows_alike count (Nat.le_succ count)
  symbols_eq := fun count => (alike count).symbols_eq count (Nat.le_refl count)
  run_eq := by
    apply run_result_eq (Prod.ext rfl (alike 0).word_loaded) (Prod.ext rfl (alike 0).other_loaded)
    intro count
    exact (alike count).step_eq count (Nat.le_refl count)

/-- Inputs that put a machine in the same situation cannot be told apart. -/
theorem alwaysAlike_of_start_eq
    (same : (ofProgram program).start other = (ofProgram program).start word) :
    AlwaysAlike program word other := by
  constructor <;> simp only [same, Machine.run, implies_true]
  intro count
  exact .refl _

/-- Blanks after an input are never told from the blanks that are there anyway. -/
theorem alwaysAlike_padded (wellFormed : program.WellFormed)
    (blank : program.blank ∈ program.inputAlphabet) (word : List Char) (blanks : Nat) :
    AlwaysAlike program word (word ++ List.replicate blanks program.blank) := by
  -- An input that is not loaded has its bad symbol before the blanks. To a loaded one they add nothing,
  -- however far the head goes, so the bound may be any.
  by_cases loaded : ((ofProgram program).start word).2 = .ok .advanced
  · have letters := letters_of_loaded wellFormed loaded
    apply alwaysAlike_of_forall_within
    intro reach
    apply alikeWithin_of_same wellFormed letters
    · intro symbol mem
      rcases List.mem_append.1 mem with mem | mem
      · exact letters symbol mem
      · obtain rfl := List.eq_of_mem_replicate mem
        exact ⟨blank, wellFormed.blank_mem⟩
    · intro place _
      rcases Nat.lt_or_ge place word.length with inside | beyond
      · rw [List.getElem?_append_left inside]
      · rw [List.getElem?_append_right beyond, List.getElem?_eq_none beyond,
          List.getElem?_replicate]
        split <;> rfl
  · apply alwaysAlike_of_start_eq
    apply start_append_of_not_loaded ?_ loaded
    intro symbol mem
    obtain rfl := List.eq_of_mem_replicate mem
    exact blank

end Inputs

/-- A run cannot depend on input that it has not had the time to reach. Two inputs over both alphabets
    that are the same up to a place, with blanks after their ends, cannot be told apart by the steps that
    it takes to come there, nor by the next one; after that one only a head that stands beyond the
    place has something else under it. If the blank is an input symbol, blanks that are appended to
    an input, whatever it is, never change anything. -/
theorem reach_bounds_influence {declarations : Declarations} {program : Program}
    (built : declarations.build = .ok program) :
    (∀ (word other : List Char) (reach : Nat),
      (∀ symbol ∈ word, symbol ∈ program.inputAlphabet ∧ symbol ∈ program.tapeAlphabet) →
      (∀ symbol ∈ other, symbol ∈ program.inputAlphabet ∧ symbol ∈ program.tapeAlphabet) →
      (∀ place ≤ reach,
        word[place]?.getD program.blank = other[place]?.getD program.blank) →
      AlikeWithin program reach word other) ∧
    (program.blank ∈ program.inputAlphabet → ∀ (word : List Char) (blanks : Nat),
      AlwaysAlike program word (word ++ List.replicate blanks program.blank)) := by
  have wellFormed : program.WellFormed := wellFormed_of_build built
  refine ⟨?_, fun blank word blanks => alwaysAlike_padded wellFormed blank word blanks⟩
  intro word other reach letters otherLetters same
  exact alikeWithin_of_same wellFormed letters otherLetters same

/-- The machine that marks zeros, with the blank among its input symbols. -/
def openMarker : Declarations :=
  { Declarations.marker with inputAlphabet := Alphabet.ofList ['0', '1', '_'] }

/-- Two inputs of the marker that are the same on two cells, the second one ended by a blank, and a third
    one to which blanks are appended. -/
theorem reach_bounds_influence_on_openMarker :
    openMarker.build = .ok openMarker.program ∧
      (∀ symbol ∈ ['0', '_', '1'], symbol ∈ openMarker.program.inputAlphabet ∧
        symbol ∈ openMarker.program.tapeAlphabet) ∧
      (∀ symbol ∈ ['0'], symbol ∈ openMarker.program.inputAlphabet ∧
        symbol ∈ openMarker.program.tapeAlphabet) ∧
      (∀ place ≤ 1, ['0', '_', '1'][place]?.getD openMarker.program.blank =
        ['0'][place]?.getD openMarker.program.blank) ∧
      openMarker.program.blank ∈ openMarker.program.inputAlphabet ∧
      AlikeWithin openMarker.program 1 ['0', '_', '1'] ['0'] ∧
      AlwaysAlike openMarker.program ['0', '.'] ['0', '.', '_', '_'] := by
  have built : openMarker.build = .ok openMarker.program := rfl
  have blank : openMarker.program.blank ∈ openMarker.program.inputAlphabet :=
    Alphabet.contains_iff.1 rfl
  have letters : ∀ symbol ∈ ['0', '_', '1'], symbol ∈ openMarker.program.inputAlphabet ∧
      symbol ∈ openMarker.program.tapeAlphabet := by
    simp only [List.forall_mem_cons, List.not_mem_nil, false_implies, implies_true, and_true,
      ← Alphabet.contains_iff]
    decide
  have otherLetters : ∀ symbol ∈ ['0'], symbol ∈ openMarker.program.inputAlphabet ∧
      symbol ∈ openMarker.program.tapeAlphabet :=
    fun symbol mem => letters symbol (List.mem_append_left ['_', '1'] mem)
  have same : ∀ place ≤ 1, ['0', '_', '1'][place]?.getD openMarker.program.blank =
      ['0'][place]?.getD openMarker.program.blank := by
    decide
  obtain ⟨within, padded⟩ := reach_bounds_influence built
  exact ⟨built, letters, otherLetters, same, blank, within _ _ 1 letters otherLetters same,
    padded blank ['0', '.'] 2⟩

/-- The symbols under the heads are not out of reach: two inputs of the marker are the same on the cell
    that the first step reads, and after that step different symbols stand under the head. -/
theorem symbols_differ_at_reach :
    Declarations.marker.build = .ok Declarations.marker.program ∧
      (∀ symbol ∈ ['0', '0'], symbol ∈ Declarations.marker.program.inputAlphabet ∧
        symbol ∈ Declarations.marker.program.tapeAlphabet) ∧
      (∀ symbol ∈ ['0', '1'], symbol ∈ Declarations.marker.program.inputAlphabet ∧
        symbol ∈ Declarations.marker.program.tapeAlphabet) ∧
      (∀ place ≤ 0, ['0', '0'][place]?.getD Declarations.marker.program.blank =
        ['0', '1'][place]?.getD Declarations.marker.program.blank) ∧
      (stepTimes 1 ((ofProgram Declarations.marker.program).start ['0', '1']).1).symbols ≠
        (stepTimes 1 ((ofProgram Declarations.marker.program).start ['0', '0']).1).symbols := by
  have letters : ∀ symbol ∈ ['0', '0', '1'], symbol ∈ Declarations.marker.program.inputAlphabet ∧
      symbol ∈ Declarations.marker.program.tapeAlphabet := by
    simp only [List.forall_mem_cons, List.not_mem_nil, false_implies, implies_true, and_true,
      ← Alphabet.contains_iff]
    decide
  refine ⟨Declarations.marker_build, ?_, ?_, by decide, by decide⟩
  · intro symbol mem
    exact letters symbol (List.mem_append_left ['1'] mem)
  · intro symbol mem
    exact letters symbol (List.mem_cons_of_mem '0' mem)

end Machine

end Multitape
