/-
Module: Multitape.Proofs.VisitedCells
Purpose: The cells that a tape stores. They are those that it was given and those that its head has visited,
  so their number, the offset and the place of the head follow from how far the head has been to either side.
  A rule moves each head by one place at most, so no tape grows by more than one cell a rule.
Main exports: Tape.displacements, Tape.Stores, Stores.shift, Stores.perform, exists_stores,
  Tape.GrownWithin, Machine.GrownWithin, StepOutcome.grownWithin, stored_cells_are_visited
-/
import Mathlib.Data.List.Infix
import Multitape.Proofs.EndlessTape

namespace Multitape

namespace Tape

/-! ### How far a head has been -/

/-- How far to the right a piece of work takes the head. -/
def HeadWork.displacement : HeadWork → Int
  | shift direction => InfiniteTape.displacement direction
  | _ => 0

/-- How far to the right a row of work takes the head. -/
def netDisplacement (work : List HeadWork) : Int :=
  work.foldl (fun place piece => place + piece.displacement) 0

/-- How far to the right of its first place the head stands, before a row of work and after each piece
    of it. -/
def displacements (work : List HeadWork) : List Int := work.inits.map netDisplacement

section Displacements

variable {work : List HeadWork} {last : HeadWork} {numbers : List Int}

theorem netDisplacement_concat :
    netDisplacement (work ++ [last]) = netDisplacement work + last.displacement := by
  rw [netDisplacement, List.foldl_append]
  rfl

theorem displacements_concat :
    displacements (work ++ [last]) =
      displacements work ++ [netDisplacement work + last.displacement] := by
  rw [displacements, List.inits_append, List.map_append, ← netDisplacement_concat]
  rfl

theorem min?_concat {least : Int} (found : numbers.min? = some least) (number : Int) :
    (numbers ++ [number]).min? = some (min least number) := by
  cases numbers with
  | nil => cases found
  | cons first rest =>
      rw [List.min?_cons', Option.some.injEq] at found
      rw [List.cons_append, List.min?_cons', List.foldl_append, found]
      rfl

theorem max?_concat {greatest : Int} (found : numbers.max? = some greatest) (number : Int) :
    (numbers ++ [number]).max? = some (max greatest number) := by
  cases numbers with
  | nil => cases found
  | cons first rest =>
      rw [List.max?_cons', Option.some.injEq] at found
      rw [List.cons_append, List.max?_cons', List.foldl_append, found]
      rfl

end Displacements

/-! ### Growth by one move -/

variable {tape : Tape}

theorem length_cells : tape.cells.length = tape.behind.length + tape.ahead.length := by
  simp [cells]

theorem length_cells_le_settle : tape.cells.length ≤ tape.settle.cells.length := by
  unfold settle
  split
  · rename_i unstored
    simp [length_cells, unstored]
  · exact Nat.le_refl _

theorem length_cells_write (stored : tape.ahead ≠ []) (symbol : Char) :
    (tape.write symbol).cells.length = tape.cells.length := by
  have positive := List.length_pos_of_ne_nil stored
  simp only [length_cells, write, List.length_cons, List.length_tail]
  omega

/-- A move to the left puts a cell in front if the head stands on the first one. -/
theorem length_cells_moveLeft :
    tape.moveLeft.cells.length = tape.cells.length + if tape.head = 0 then 1 else 0 := by
  rw [length_cells, length_cells, moveLeft_behind, moveLeft_ahead, List.length_tail, List.length_cons,
    head]
  split <;> omega

theorem offset_moveLeft :
    tape.moveLeft.offset = tape.offset + if tape.head = 0 then 1 else 0 := by
  unfold moveLeft head
  split <;> rename_i behind <;> simp [behind]

/-- After a move to the right there is a cell for the head, behind all that it has passed. -/
theorem length_cells_moveRight (stored : tape.ahead ≠ []) :
    tape.moveRight.cells.length = max tape.cells.length (tape.head + 2) := by
  obtain ⟨cell, rest, ahead⟩ := List.exists_cons_of_ne_nil stored
  rw [moveRight_eq_settle tape ahead, length_cells, length_cells, head, ahead]
  cases rest with
  | nil =>
      simp only [settle, List.length_cons, List.length_nil]
      omega
  | cons next rest =>
      simp only [settle, List.length_cons]
      omega

@[simp] theorem offset_moveRight : tape.moveRight.offset = tape.offset := by
  unfold moveRight
  split <;> simp

/-! ### What is stored after a row of work -/

variable {size : Nat} {lowest highest here : Int}

/-- A tape that was given a number of cells, its head on the first of them. Since then the head has been as
    far as `lowest` and `highest`, and it stands at `here`. Given and visited cells are stored, and no
    others. -/
structure Stores (size : Nat) (lowest highest here : Int) (tape : Tape) : Prop where
  stored : tape.ahead ≠ []
  lowest_le : lowest ≤ here
  le_highest : here ≤ highest
  position_eq : tape.position = here
  offset_eq : (tape.offset : Int) = -lowest
  cells_eq : (tape.cells.length : Int) = max (size : Int) (highest + 1) - lowest

/-- A tape that was given its cells. -/
theorem stores_word {alphabet : Alphabet} {blank : Char} {word : List Char} (given : word ≠ []) :
    Stores word.length 0 0 0 { withBlank alphabet blank with ahead := word } := by
  have positive := List.length_pos_of_ne_nil given
  refine ⟨given, Int.le_refl 0, Int.le_refl 0, rfl, rfl, ?_⟩
  rw [length_cells]
  simp only [withBlank, List.length_nil]
  omega

namespace Stores

theorem head_eq (stores : Stores size lowest highest here tape) : (tape.head : Int) = here - lowest := by
  have placed := stores.position_eq
  have shifted := stores.offset_eq
  rw [position] at placed
  omega

theorem write (stores : Stores size lowest highest here tape) (symbol : Char) :
    Stores size lowest highest here (tape.write symbol) :=
  { stores with
    stored := List.cons_ne_nil _ _
    cells_eq := by rw [length_cells_write stores.stored, stores.cells_eq] }

theorem moveLeft (stores : Stores size lowest highest here tape) :
    Stores size (min lowest (here - 1)) (max highest (here - 1)) (here - 1) tape.moveLeft := by
  have head := stores.head_eq
  obtain ⟨-, lower, upper, placed, offset, cells⟩ := stores
  refine ⟨by simp, by omega, by omega, ?_, ?_, ?_⟩
  · rw [moveLeft_position, placed]
  · rw [offset_moveLeft]
    split <;> omega
  · rw [length_cells_moveLeft]
    split <;> omega

theorem moveRight (stores : Stores size lowest highest here tape) :
    Stores size (min lowest (here + 1)) (max highest (here + 1)) (here + 1) tape.moveRight := by
  have head := stores.head_eq
  obtain ⟨stored, lower, upper, placed, offset, cells⟩ := stores
  refine ⟨moveRight_ahead_ne_nil, by omega, by omega, ?_, ?_, ?_⟩
  · rw [moveRight_position stored, placed]
  · rw [offset_moveRight]
    omega
  · rw [length_cells_moveRight stored]
    omega

/-- A head that stays has been no further than before. -/
theorem stayed (stores : Stores size lowest highest here tape) :
    Stores size (min lowest (here + 0)) (max highest (here + 0)) (here + 0) tape := by
  rw [Int.add_zero, min_eq_left stores.lowest_le, max_eq_left stores.le_highest]
  exact stores

/-- Wherever a move leads, what is stored reaches as far as the head has been. -/
theorem shift (stores : Stores size lowest highest here tape) (direction : Direction) :
    Stores size (min lowest (here + InfiniteTape.displacement direction))
      (max highest (here + InfiniteTape.displacement direction))
      (here + InfiniteTape.displacement direction) (tape.shift direction) := by
  cases direction with
  | left => exact stores.moveLeft
  | right => exact stores.moveRight
  | stay => exact stores.stayed

/-- Every piece of work but clearing adds the cell that the head comes to. -/
theorem perform (stores : Stores size lowest highest here tape) {work : HeadWork}
    (kept : work ≠ .clear) :
    Stores size (min lowest (here + work.displacement)) (max highest (here + work.displacement))
      (here + work.displacement) (tape.perform work.operation) := by
  cases work with
  | read =>
      have still : tape.perform .read = tape := settle_eq_self stores.stored
      exact still.symm ▸ stores.stayed
  | write symbol => exact (stores.write symbol).stayed
  | shift direction => exact stores.shift direction
  | clear => exact absurd rfl kept

end Stores

/-- After a row of work without clearing, what is stored is what was given and how far the head has
    been. -/
theorem exists_stores {alphabet : Alphabet} (blank : Char) {word : List Char} (given : word ≠ [])
    (known : ∀ symbol ∈ word, symbol ∈ alphabet) {work : List HeadWork}
    (kept : HeadWork.clear ∉ work) :
    ∃ lowest highest, (displacements work).min? = some lowest ∧
      (displacements work).max? = some highest ∧
      Stores word.length lowest highest (netDisplacement work)
        (((withBlank alphabet blank).insert word).1.performAll (work.map HeadWork.operation)) := by
  rw [insert_withBlank known]
  induction work using List.reverseRecOn with
  | nil => exact ⟨0, 0, rfl, rfl, stores_word given⟩
  | append_singleton work last ih =>
      rw [List.mem_append, not_or, List.mem_singleton, eq_comm] at kept
      obtain ⟨lowest, highest, least, greatest, stores⟩ := ih kept.1
      rw [displacements_concat, netDisplacement_concat, List.map_append]
      refine ⟨_, _, min?_concat least _, max?_concat greatest _, ?_⟩
      exact (performAll_concat _ _).symm ▸ stores.perform kept.2

/-! ### Growth by rules -/

/-- A tape of at most `bound` given cells whose head has gone over at most `steps` more places. -/
def GrownWithin (bound steps : Nat) (tape : Tape) : Prop :=
  ∃ size ≤ bound, ∃ lowest highest here, Stores size lowest highest here tape ∧ 0 ≤ highest ∧
    highest - lowest ≤ steps

variable {bound steps : Nat}

theorem GrownWithin.write (grown : tape.GrownWithin bound steps) (symbol : Char) :
    (tape.write symbol).GrownWithin bound steps := by
  obtain ⟨size, given, lowest, highest, here, stores, origin, span⟩ := grown
  exact ⟨size, given, lowest, highest, here, stores.write symbol, origin, span⟩

theorem GrownWithin.more (grown : tape.GrownWithin bound steps) :
    tape.GrownWithin bound (steps + 1) := by
  obtain ⟨size, given, lowest, highest, here, stores, origin, span⟩ := grown
  exact ⟨size, given, lowest, highest, here, stores, origin, by omega⟩

/-- A move goes over one more place at most. -/
theorem GrownWithin.shift (grown : tape.GrownWithin bound steps) (direction : Direction) :
    (tape.shift direction).GrownWithin bound (steps + 1) := by
  obtain ⟨size, given, lowest, highest, here, stores, origin, span⟩ := grown
  have lower := stores.lowest_le
  have upper := stores.le_highest
  refine ⟨size, given, _, _, _, stores.shift direction, by omega, ?_⟩
  cases direction <;> simp only [InfiniteTape.displacement] <;> omega

theorem GrownWithin.stored (grown : tape.GrownWithin bound steps) : tape.ahead ≠ [] := by
  obtain ⟨_, _, _, _, _, stores, _⟩ := grown
  exact stores.stored

/-- How large such a tape is, and how far its head stands from the origin. -/
theorem GrownWithin.bounds (positive : 0 < bound) (grown : tape.settle.GrownWithin bound steps) :
    tape.cells.length ≤ bound + steps ∧ tape.offset ≤ steps ∧ tape.position.natAbs ≤ steps := by
  obtain ⟨size, given, lowest, highest, here, stores, origin, span⟩ := grown
  have cells := stores.cells_eq
  have offset := stores.offset_eq
  have placed := stores.position_eq
  have lower := stores.lowest_le
  have upper := stores.le_highest
  have settled : tape.cells.length ≤ tape.settle.cells.length := length_cells_le_settle
  rw [settle_offset] at offset
  rw [settle_position] at placed
  omega

/-- A fresh tape with a word on it has not grown. -/
theorem grownWithin_word {alphabet : Alphabet} {blank : Char} (word : List Char)
    (short : word.length ≤ bound) (positive : 0 < bound) :
    ({ withBlank alphabet blank with ahead := word } : Tape).settle.GrownWithin bound 0 := by
  cases word with
  | nil => exact ⟨1, positive, 0, 0, 0, stores_word (List.cons_ne_nil blank []), by omega, by omega⟩
  | cons first rest =>
      exact ⟨_, short, 0, 0, 0, stores_word (List.cons_ne_nil first rest), by omega, by omega⟩

/-- A tape of which a rule is taken has grown by at most one more cell. -/
theorem grownWithin_execute {transition : Transition} {tapes : List Tape}
    (grown : ∀ tape ∈ tapes, tape.GrownWithin bound steps) :
    ∀ tape ∈ transition.execute tapes, tape.GrownWithin bound (steps + 1) :=
  Transition.forall_mem_shiftAll (fun _ holds => holds.more)
    (fun _ direction holds => holds.shift direction)
    (Transition.forall_mem_writeAll (fun _ symbol _ holds => holds.write symbol) grown)

end Tape

namespace Machine

variable {machine : Machine} {bound : Nat}

/-- Once its head has been given a cell, no tape has grown by more than a cell for each rule taken. -/
def GrownWithin (bound : Nat) (machine : Machine) : Prop :=
  ∀ tape ∈ machine.tapes, tape.settle.GrownWithin bound machine.stepCount

theorem GrownWithin.readTapes (grown : machine.GrownWithin bound) :
    ∀ tape ∈ machine.readTapes.tapes, tape.GrownWithin bound machine.stepCount := by
  intro tape mem
  obtain ⟨tape, tapeMem, rfl⟩ := List.mem_map.1 mem
  exact grown tape tapeMem

/-- Heads that stand on stored cells need not be given any. -/
theorem grownWithin_of_stored
    (grown : ∀ tape ∈ machine.tapes, tape.GrownWithin bound machine.stepCount) :
    machine.GrownWithin bound := by
  intro tape mem
  have here := grown tape mem
  rwa [Tape.settle_eq_self here.stored]

theorem StepOutcome.grownWithin {next : Machine} {result : Step}
    (outcome : StepOutcome machine next result) (grown : machine.GrownWithin bound) :
    next.GrownWithin bound := by
  cases outcome with
  | resting halted => exact grown
  | stuck live noRule => exact grownWithin_of_stored grown.readTapes
  | accepting live rule accepts =>
      exact grownWithin_of_stored (Tape.grownWithin_execute grown.readTapes)
  | advancing live rule refuses =>
      exact grownWithin_of_stored (Tape.grownWithin_execute grown.readTapes)

/-- Seeding fresh tapes puts a part of the input on the first one, and a blank at most on the others. -/
theorem exists_word_of_mem_seed (fresh : Tape) (unstored : fresh.ahead = []) (count : Nat)
    (input : List Char) :
    ∀ tape ∈ (seed (List.replicate count fresh) input).1,
      ∃ word, tape = { fresh with ahead := word } ∧ word.length ≤ max input.length 1 := by
  have untouched : ∃ word, fresh = { fresh with ahead := word } ∧
      word.length ≤ max input.length 1 := ⟨[], by rw [← unstored], Nat.zero_le _⟩
  have inserted : ∃ word, (fresh.insert input).1 = { fresh with ahead := word } ∧
      word.length ≤ max input.length 1 := by
    refine ⟨input.takeWhile fresh.alphabet.contains, by simp [Tape.insert, unstored], ?_⟩
    exact Nat.le_trans (List.takeWhile_prefix _).length_le (Nat.le_max_left _ _)
  have blank : ∃ word, fresh.pushBlank = { fresh with ahead := word } ∧
      word.length ≤ max input.length 1 :=
    ⟨[fresh.blank], by simp [Tape.pushBlank, unstored], Nat.le_max_right _ _⟩
  cases count with
  | zero => simp [seed]
  | succ count =>
      intro tape mem
      rw [List.replicate_succ, seed] at mem
      split at mem
      · rename_i first symbol found
        rw [found] at inserted
        rcases List.mem_cons.1 mem with rfl | mem
        · exact inserted
        · exact List.eq_of_mem_replicate mem ▸ untouched
      · rename_i first found
        rw [found] at inserted
        rcases List.mem_cons.1 mem with rfl | mem
        · exact inserted
        · rw [List.map_replicate] at mem
          exact List.eq_of_mem_replicate mem ▸ blank

/-- A machine that was just started has tapes of at most the length of the input, or of one cell. -/
theorem grownWithin_start (program : Program) (input : List Char) :
    ((ofProgram program).start input).1.GrownWithin (max input.length 1) := by
  have positive : 0 < max input.length 1 := Nat.lt_of_lt_of_le Nat.one_pos (Nat.le_max_right _ _)
  -- Whether seeding went through or not, the tapes are those that it left.
  have seeded : ∀ tape ∈ (seed (List.replicate program.tapeCount
      (Tape.withBlank program.tapeAlphabet program.blank)) input).1,
      tape.settle.GrownWithin (max input.length 1) 0 := by
    intro tape mem
    obtain ⟨word, rfl, short⟩ := exists_word_of_mem_seed _ rfl program.tapeCount input tape mem
    exact Tape.grownWithin_word word short positive
  have outcome := (ofProgram program).start_outcome input
  generalize ((ofProgram program).start input).1 = next at outcome ⊢
  generalize ((ofProgram program).start input).2 = result at outcome
  cases outcome with
  | foreign found =>
      intro tape mem
      obtain rfl := List.eq_of_mem_replicate mem
      exact Tape.grownWithin_word [] (Nat.zero_le _) positive
  | refused known found => exact fun tape mem => seeded tape (congrArg Prod.fst found ▸ mem)
  | loaded known found => exact fun tape mem => seeded tape (congrArg Prod.fst found ▸ mem)

end Machine

namespace Tape

/-- A tape stores exactly what it was given and what its head has visited. After a word has been put on a fresh
    tape, and any row of reads, writes and moves, the least and the greatest of the places where the head has
    been say how many cells are in front, how many there are in all, and where the head stands among them. So
    no tape of a machine has grown by more than one cell for each rule that was taken since a start, and no
    head has gone further. -/
theorem stored_cells_are_visited :
    (∀ (alphabet : Alphabet) (blank : Char) (word : List Char) (work : List HeadWork), word ≠ [] →
      (∀ symbol ∈ word, symbol ∈ alphabet) → HeadWork.clear ∉ work →
      ∃ lowest highest, (displacements work).min? = some lowest ∧
        (displacements work).max? = some highest ∧
        let tape := ((withBlank alphabet blank).insert word).1.performAll (work.map HeadWork.operation)
        tape.position = netDisplacement work ∧ (tape.offset : Int) = -lowest ∧
          (tape.cells.length : Int) = max (word.length : Int) (highest + 1) - lowest ∧
          (tape.head : Int) = netDisplacement work - lowest) ∧
    ∀ (program : Program) (input : List Char) (count : Nat),
      let machine := Machine.stepTimes count ((Machine.ofProgram program).start input).1
      ∀ tape ∈ machine.tapes, tape.cells.length ≤ max input.length 1 + machine.stepCount ∧
        tape.offset ≤ machine.stepCount ∧ tape.position.natAbs ≤ machine.stepCount := by
  constructor
  · intro alphabet blank word work given known kept
    obtain ⟨lowest, highest, least, greatest, stores⟩ := exists_stores blank given known kept
    exact ⟨lowest, highest, least, greatest, stores.position_eq, stores.offset_eq, stores.cells_eq,
      stores.head_eq⟩
  · intro program input count machine tape mem
    have positive : 0 < max input.length 1 := Nat.lt_of_lt_of_le Nat.one_pos (Nat.le_max_right _ _)
    have grown : machine.GrownWithin (max input.length 1) :=
      Machine.stepTimes_induction (fun before holds => before.step_outcome.grownWithin holds) count
        (Machine.grownWithin_start program input)
    exact (grown tape mem).bounds positive

/-- Work that goes beyond its word on both sides and comes back. -/
def wander : List HeadWork :=
  [ .shift .left, .read, .shift .left, .shift .right, .shift .right, .shift .right, .shift .right,
    .shift .right, .write '1', .shift .left ]

/-- What is stored after the work that goes beyond its word, and after four rules of the machine that marks
    zeros. -/
theorem visited_cells_of_wander :
    (∀ symbol ∈ ['0', '1'], symbol ∈ Alphabet.ofList ['0', '1', '_']) ∧ HeadWork.clear ∉ wander ∧
      displacements wander = [0, -1, -1, -2, -1, 0, 1, 2, 3, 3, 2] ∧
      (let tape := ((withBlank (Alphabet.ofList ['0', '1', '_']) '_').insert ['0', '1']).1.performAll
        (wander.map HeadWork.operation)
       tape.position = 2 ∧ (tape.offset : Int) = 2 ∧ (tape.cells.length : Int) = 6 ∧
        (tape.head : Int) = 4) ∧
      let machine := Machine.stepTimes 4
        ((Machine.ofProgram Declarations.marker.program).start ['0', '0']).1
      machine.stepCount = 4 ∧
        ∀ tape ∈ machine.tapes, tape.cells.length ≤ 6 ∧ tape.offset ≤ 4 ∧ tape.position.natAbs ≤ 4 := by
  have known : ∀ symbol ∈ ['0', '1'], symbol ∈ Alphabet.ofList ['0', '1', '_'] := by simp
  have kept : HeadWork.clear ∉ wander := by decide
  obtain ⟨stored, grown⟩ := stored_cells_are_visited
  obtain ⟨lowest, highest, least, greatest, placed, offset, cells, head⟩ :=
    stored (Alphabet.ofList ['0', '1', '_']) '_' ['0', '1'] wander (by decide) known kept
  obtain rfl : -2 = lowest := Option.some.inj least
  obtain rfl : 3 = highest := Option.some.inj greatest
  exact ⟨known, kept, rfl, ⟨placed, offset, cells, head⟩, rfl,
    grown Declarations.marker.program ['0', '0'] 4⟩

end Tape

end Multitape
