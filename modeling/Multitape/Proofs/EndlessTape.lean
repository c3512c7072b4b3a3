/-
Module: Multitape.Proofs.EndlessTape
Purpose: A tape that grows when its head leaves the stored cells cannot be told from one without ends. The
  heads of the two need not stand at one place, since a move to the right is lost where no cell is stored, but
  from where they stand the same symbols are seen in both directions, and every operation keeps that.
Main exports: Tape.HeadWork, Tape.seen, Tape.seenAmongReads, InfiniteTape.seen, InfiniteTape.Alike,
  Tape.Shows, Shows.perform, tape_indistinguishable_from_endless
-/
import Mathlib.Data.List.ReduceOption
import Multitape.Proofs.HeadPosition

namespace Multitape

/-! ### Work and what is seen of it -/

/-- What is done with a head once a word has been put on its tape. A move to a side is a shift in that
    direction. -/
inductive Tape.HeadWork where
  | read
  | write (symbol : Char)
  | shift (direction : Direction)
  | clear
deriving DecidableEq

open Tape (HeadWork)

namespace Tape

/-- A piece of work as an operation on a stored tape. -/
def HeadWork.operation : HeadWork → Operation
  | read => .read
  | write symbol => .write symbol
  | shift direction => .shift direction
  | clear => .clear

/-- The symbol that a piece of work returns, if it is a read. -/
def returned (tape : Tape) : HeadWork → Option Char
  | .read => some tape.read.1
  | _ => none

/-- What is seen of a row of work: what each piece returns, and the symbol under the head after it. -/
def seen (tape : Tape) : List HeadWork → List (Option Char × Char)
  | [] => []
  | work :: rest =>
      (tape.returned work, (tape.perform work.operation).peek) ::
        (tape.perform work.operation).seen rest

/-- What is seen of a row of work with additional reads in it, which have no work to them. Nothing is noted of
    these. -/
def seenAmongReads (tape : Tape) : List (Option HeadWork) → List (Option Char × Char)
  | [] => []
  | none :: rest => tape.read.2.seenAmongReads rest
  | some work :: rest =>
      (tape.returned work, (tape.perform work.operation).peek) ::
        (tape.perform work.operation).seenAmongReads rest

end Tape

namespace InfiniteTape

/-- Make every cell blank. -/
def clear (tape : InfiniteTape) (blank : Char) : InfiniteTape := { tape with cell := fun _ => blank }

/-- The endless tape after a piece of work. To read it changes nothing. -/
def perform (tape : InfiniteTape) (blank : Char) : HeadWork → InfiniteTape
  | .read => tape
  | .write symbol => tape.write symbol
  | .shift direction => tape.shift direction
  | .clear => tape.clear blank

/-- The symbol that a piece of work returns, if it is a read. -/
def returned (tape : InfiniteTape) : HeadWork → Option Char
  | .read => some tape.read
  | _ => none

/-- What is seen of a row of work on an endless tape. -/
def seen (tape : InfiniteTape) (blank : Char) : List HeadWork → List (Option Char × Char)
  | [] => []
  | work :: rest =>
      (tape.returned work, (tape.perform blank work).read) :: (tape.perform blank work).seen blank rest

/-! ### Tapes that look alike from their heads -/

/-- From where their heads stand, two endless tapes show the same symbols on both sides. -/
def Alike (first second : InfiniteTape) : Prop :=
  ∀ distance, first.cell (first.head + distance) = second.cell (second.head + distance)

variable {first second : InfiniteTape}

theorem Alike.read_eq (alike : first.Alike second) : first.read = second.read := by
  have same := alike 0
  rwa [Int.add_zero, Int.add_zero] at same

theorem Alike.write (alike : first.Alike second) (symbol : Char) :
    (first.write symbol).Alike (second.write symbol) := by
  intro distance
  by_cases here : distance = 0
  · subst here
    simp [InfiniteTape.write]
  · have elsewhere : ∀ head : Int, head + distance ≠ head := fun head => by omega
    simpa only [InfiniteTape.write, elsewhere, if_false] using alike distance

theorem Alike.shift (alike : first.Alike second) (direction : Direction) :
    (first.shift direction).Alike (second.shift direction) := by
  intro distance
  simp only [InfiniteTape.shift, Int.add_assoc]
  exact alike (displacement direction + distance)

/-- Tapes with one symbol everywhere look alike, wherever their heads stand. -/
theorem alike_of_uniform {symbol : Char} (one : ∀ place, first.cell place = symbol)
    (other : ∀ place, second.cell place = symbol) : first.Alike second :=
  fun _ => (one _).trans (other _).symm

/-- What looks like a tape with one symbol everywhere is one itself. -/
theorem Alike.uniform {symbol : Char} (alike : first.Alike second)
    (one : ∀ place, first.cell place = symbol) (place : Int) : second.cell place = symbol := by
  have same := alike (place - second.head)
  have there : second.head + (place - second.head) = place := by omega
  rw [one, there] at same
  exact same.symm

end InfiniteTape

namespace Tape

variable {tape : Tape} {endless : InfiniteTape} {blank : Char}

@[simp] theorem perform_blank (operation : Operation) :
    (tape.perform operation).blank = tape.blank := by
  cases operation with
  | shift direction => cases direction <;> simp [perform, shift]
  | read => exact tape.settle_blank
  | _ => rfl

/-- A tape without cells shows blanks only. -/
theorem view_cell_of_cells_eq_nil (none : tape.cells = []) (place : Int) :
    tape.view.cell place = tape.blank := by
  simp [view, none]

/-! ### A stored tape shows an endless one -/

/-- A stored tape that grows by a blank shows what an endless one shows, each from where its head stands. -/
structure Shows (tape : Tape) (blank : Char) (endless : InfiniteTape) : Prop where
  inside : tape.HeadInside
  blank_eq : tape.blank = blank
  alike : tape.view.Alike endless

namespace Shows

theorem peek_eq (shown : tape.Shows blank endless) : tape.peek = endless.read := by
  rw [← view_read, shown.alike.read_eq]

/-- A tape without cells looks like any endless tape that is blank everywhere. -/
theorem of_blank (none : tape.cells = []) (inside : tape.HeadInside) (blank_eq : tape.blank = blank)
    (everywhere : ∀ place, endless.cell place = blank) : tape.Shows blank endless where
  inside := inside
  blank_eq := blank_eq
  alike := InfiniteTape.alike_of_uniform
    (fun place => (view_cell_of_cells_eq_nil none place).trans blank_eq) everywhere

/-- The head of the stored tape may fall behind that of the endless one, but only where everything is
    blank. -/
theorem alike_moveRight (shown : tape.Shows blank endless) :
    tape.moveRight.view.Alike (endless.shift .right) := by
  by_cases unstored : tape.ahead = []
  · have none := shown.inside.cells_eq_nil_iff.2 unstored
    have here := view_cell_of_cells_eq_nil none
    rw [moveRight_eq_of_unstored unstored, view_settle]
    exact InfiniteTape.alike_of_uniform here (shown.alike.uniform here)
  · rw [view_moveRight tape unstored]
    exact shown.alike.shift .right

theorem alike_shift (shown : tape.Shows blank endless) (direction : Direction) :
    (tape.shift direction).view.Alike (endless.shift direction) := by
  cases direction with
  | right => exact shown.alike_moveRight
  | left =>
      rw [Tape.shift, view_moveLeft]
      exact shown.alike.shift .left
  | stay =>
      have still : endless.shift .stay = endless := by
        simp [InfiniteTape.shift, InfiniteTape.displacement]
      rw [still]
      exact shown.alike

/-- Every piece of work keeps what a stored tape shows. -/
theorem perform (shown : tape.Shows blank endless) (work : HeadWork) :
    (tape.perform work.operation).Shows blank (endless.perform blank work) := by
  have inside := shown.inside.perform work.operation
  have blank_eq := (tape.perform_blank work.operation).trans shown.blank_eq
  cases work with
  | read => exact ⟨inside, blank_eq, tape.view_settle.symm ▸ shown.alike⟩
  | write symbol => exact ⟨inside, blank_eq, tape.view_write symbol ▸ shown.alike.write symbol⟩
  | shift direction => exact ⟨inside, blank_eq, shown.alike_shift direction⟩
  | clear => exact of_blank rfl inside blank_eq fun _ => rfl

/-- A read returns the symbol that the endless tape has there. -/
theorem returned_eq (shown : tape.Shows blank endless) (work : HeadWork) :
    tape.returned work = endless.returned work := by
  cases work with
  | read => exact congrArg some (tape.peek_settle.trans shown.peek_eq)
  | _ => rfl

/-- With additional reads in it or without, work shows the same on both tapes. -/
theorem seenAmongReads_eq (shown : tape.Shows blank endless) (entries : List (Option HeadWork)) :
    tape.seenAmongReads entries = endless.seen blank entries.reduceOption := by
  induction entries generalizing tape endless with
  | nil => rfl
  | cons entry entries ih =>
      cases entry with
      | none =>
          rw [List.reduceOption_cons_of_none]
          exact ih (shown.perform .read)
      | some work =>
          have next := shown.perform work
          rw [List.reduceOption_cons_of_some, seenAmongReads, InfiniteTape.seen, shown.returned_eq,
            next.peek_eq, ih next]

end Shows

/-- Without additional reads nothing is left out. -/
theorem seenAmongReads_map_some (work : List HeadWork) :
    tape.seenAmongReads (work.map some) = tape.seen work := by
  induction work generalizing tape with
  | nil => rfl
  | cons first rest ih => rw [List.map_cons, seenAmongReads, seen, ih]

theorem Shows.seen_eq (shown : tape.Shows blank endless) (work : List HeadWork) :
    tape.seen work = endless.seen blank work := by
  have same := shown.seenAmongReads_eq (work.map some)
  rwa [seenAmongReads_map_some, List.reduceOption, List.filterMap_map, Function.id_comp,
    List.filterMap_some] at same

/-! ### Words of the alphabet -/

/-- A word of the alphabet is put on a fresh tape as a whole. -/
theorem insert_withBlank {alphabet : Alphabet} {word : List Char}
    (known : ∀ symbol ∈ word, symbol ∈ alphabet) :
    (withBlank alphabet blank).insert word = ({ withBlank alphabet blank with ahead := word }, none) :=
  insert_eq_append known

theorem shows_ofWord {alphabet : Alphabet} (blank : Char) {word : List Char}
    (known : ∀ symbol ∈ word, symbol ∈ alphabet) :
    ((withBlank alphabet blank).insert word).1.Shows blank (InfiniteTape.ofWord blank word) := by
  rw [insert_withBlank known]
  refine ⟨headInside_iff.2 fun _ => rfl, rfl, fun distance => ?_⟩
  rw [view_withBlank_ahead]

/-- A tape that grows at need cannot be told from one without ends. However a head reads, writes and moves
    after a word of the alphabet has been put on a fresh tape, and however often the tape is cleared, each read
    returns and each piece of work leaves under the head what they do on an endless tape that holds the word
    from the head on. Additional reads anywhere in between change nothing of what is seen. -/
theorem tape_indistinguishable_from_endless {alphabet : Alphabet} {blank : Char} {word : List Char}
    (known : ∀ symbol ∈ word, symbol ∈ alphabet) :
    (∀ work : List HeadWork, ((withBlank alphabet blank).insert word).1.seen work =
      (InfiniteTape.ofWord blank word).seen blank work) ∧
    ∀ entries : List (Option HeadWork),
      ((withBlank alphabet blank).insert word).1.seenAmongReads entries =
        ((withBlank alphabet blank).insert word).1.seen entries.reduceOption := by
  have shown := shows_ofWord blank known
  refine ⟨shown.seen_eq, fun entries => ?_⟩
  rw [shown.seenAmongReads_eq, shown.seen_eq]

/-- Work that leaves its word at both ends, clears the tape, and moves to the right where no cell is
    stored. -/
def excursion : List HeadWork :=
  [ .shift .left, .write '1', .shift .right, .shift .right, .shift .right, .read, .clear,
    .shift .right, .write '0', .shift .left, .read, .shift .right, .read ]

/-- The same work with an additional read before and after each piece. -/
def excursionAmongReads : List (Option HeadWork) :=
  none :: excursion.flatMap fun work => [some work, none]

/-- The excursion shows the same on both tapes, also with additional reads. -/
theorem excursion_indistinguishable :
    (∀ symbol ∈ ['0', '1'], symbol ∈ Alphabet.ofList ['0', '1', '_']) ∧
      ((withBlank (Alphabet.ofList ['0', '1', '_']) '_').insert ['0', '1']).1.seen excursion =
        (InfiniteTape.ofWord '_' ['0', '1']).seen '_' excursion ∧
      ((withBlank (Alphabet.ofList ['0', '1', '_']) '_').insert ['0', '1']).1.seenAmongReads
          excursionAmongReads =
        [ (none, '_'), (none, '1'), (none, '0'), (none, '1'), (none, '_'), (some '_', '_'), (none, '_'),
          (none, '_'), (none, '0'), (none, '_'), (some '_', '_'), (none, '0'), (some '0', '0') ] := by
  have known : ∀ symbol ∈ ['0', '1'], symbol ∈ Alphabet.ofList ['0', '1', '_'] := by simp
  obtain ⟨same, amongReads⟩ := @tape_indistinguishable_from_endless _ '_' _ known
  refine ⟨known, same excursion, ?_⟩
  rw [amongReads, show excursionAmongReads.reduceOption = excursion from rfl]
  rfl

end Tape

end Multitape
