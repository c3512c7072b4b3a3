/-
Module: Multitape.Proofs.HeadViews
Purpose: To look at a tape changes nothing that it shows. A read, the symbol under the head, the place of the
  head and the text of the tape are all about one cell, also where that cell is not stored yet: the read
  stores it, and nothing that is shown tells so. A step that rejects has read the tapes and done nothing else,
  so it leaves a machine that looks as before.
Main exports: ShownCell, Tape.shownCells, shownCells_eq, render_eq_shownCells, Tape.LooksAs, looksAs_settle,
  Machine.LooksAs, StepOutcome.looksAs, looking_changes_nothing_shown
-/
import Multitape.Proofs.BundledTables
import Multitape.Proofs.HeadPosition
import Multitape.Trace

namespace Multitape

/-! ### Cells as they are shown

Brackets may be tape symbols, so that the text of a tape alone does not tell which cell is marked.  What is
marked is said of the cells, and the text is made of these.
-/

/-- A cell as it is shown: its symbol alone, or in brackets. -/
inductive ShownCell where
  | plain (symbol : Char)
  | marked (symbol : Char)
deriving DecidableEq

namespace ShownCell

/-- The characters that show a cell. -/
def text : ShownCell → List Char
  | plain symbol => [symbol]
  | marked symbol => ['[', symbol, ']']

/-- The cells of a row, one after the other, with the one at a place marked. -/
def markAt (head : Nat) (symbols : List Char) : List ShownCell :=
  symbols.mapIdx fun place symbol => if place = head then marked symbol else plain symbol

variable {before after : List Char} {symbol : Char}

theorem flatMap_text_plain (symbols : List Char) : (symbols.map plain).flatMap text = symbols := by
  simp [List.flatMap_map, text]

/-- A row that is marked nowhere is its symbols. -/
theorem mapIdx_eq_plain {mark : Nat → Char → ShownCell} {symbols : List Char}
    (nowhere : ∀ place < symbols.length, ∀ symbol, mark place symbol = plain symbol) :
    symbols.mapIdx mark = symbols.map plain := by
  rw [List.mapIdx_eq_iff]
  intro place
  rw [List.getElem?_map]
  by_cases bound : place < symbols.length
  · rw [funext (nowhere place bound)]
  · rw [List.getElem?_eq_none (Nat.le_of_not_lt bound)]
    rfl

/-- Beyond the end of a row no cell is marked. -/
theorem markAt_of_length_le {head : Nat} {symbols : List Char} (beyond : symbols.length ≤ head) :
    markAt head symbols = symbols.map plain :=
  mapIdx_eq_plain fun _ bound _ => if_neg (Nat.ne_of_lt (Nat.lt_of_lt_of_le bound beyond))

/-- One cell is marked, and those on both sides of it are not. -/
theorem markAt_append_cons :
    markAt before.length (before ++ symbol :: after) =
      before.map plain ++ marked symbol :: after.map plain := by
  rw [markAt, List.mapIdx_append, List.mapIdx_cons]
  congr 1
  · exact markAt_of_length_le (Nat.le_refl _)
  · congr 1
    · exact if_pos (Nat.zero_add _)
    · exact mapIdx_eq_plain fun place _ _ => if_neg (by omega)

/-- In such a row a cell is marked exactly at the place in between. -/
theorem getElem?_eq_marked_iff {place : Nat} {other : Char} :
    (before.map plain ++ marked symbol :: after.map plain)[place]? = some (marked other) ↔
      place = before.length ∧ other = symbol := by
  rcases Nat.lt_trichotomy place before.length with left | here | right
  · simp [List.getElem?_append_left, left, Nat.ne_of_lt left]
  · subst here
    simp [eq_comm]
  · obtain ⟨distance, rfl⟩ := Nat.exists_eq_add_of_lt right
    simp [List.getElem?_append_right, Nat.add_assoc]

end ShownCell

namespace Tape

variable {tape : Tape}

/-- The cells of a tape, one after the other, with the one under the head marked. A head beyond the stored cells
    is shown by a marked blank behind them. -/
def shownCells (tape : Tape) : List ShownCell :=
  ShownCell.markAt tape.head tape.cells ++
    if tape.cells.length ≤ tape.head then [.marked tape.blank] else []

/-! ### The cell under the head -/

theorem take_head_cells : tape.cells.take tape.head = tape.behind.reverse := by
  simp [cells, head]

theorem drop_head_cells : tape.cells.drop (tape.head + 1) = tape.ahead.tail := by
  simp [cells, head, List.drop_append]

theorem getElem?_head_cells : tape.cells[tape.head]? = tape.ahead.head? := by
  rw [cells, head, ← List.length_reverse, List.getElem?_append_right (Nat.le_refl _), Nat.sub_self,
    List.head?_eq_getElem?]

/-- The symbol under the head is that of the cell at its place, or blank if no cell is stored there. -/
theorem peek_eq_getD : tape.peek = tape.cells[tape.head]?.getD tape.blank := by
  rw [getElem?_head_cells, peek, List.headD_eq_head?_getD]

/-- A read stores the cell that it reads. -/
theorem read_stores : tape.read.2.cells[tape.head]? = some tape.peek := by
  obtain ⟨cell, rest, stored⟩ := List.exists_cons_of_ne_nil tape.settle_ahead_ne_nil
  have read : cell = tape.peek := by rw [← tape.peek_settle, peek, stored, List.headD_cons]
  calc
    tape.settle.cells[tape.head]? = tape.settle.cells[tape.settle.head]? := by
      rw [head, head, settle_behind]
    _ = tape.settle.ahead.head? := getElem?_head_cells
    _ = some tape.peek := by rw [stored, List.head?_cons, read]

/-- A read changes the stored cells only where there are none. -/
theorem HeadInside.cells_read (inside : tape.HeadInside) :
    tape.read.2.cells = if tape.cells = [] then [tape.blank] else tape.cells := by
  split
  · rename_i none
    obtain ⟨behind, ahead⟩ := List.append_eq_nil_iff.1 none
    rw [List.reverse_eq_nil_iff] at behind
    simp [read, settle, cells, behind, ahead]
  · rename_i stored
    rw [read, settle_eq_self (mt inside.cells_eq_nil_iff.2 stored)]

/-! ### The text -/

/-- One cell is marked: the one under the head, stored or not. -/
theorem shownCells_eq (tape : Tape) :
    tape.shownCells =
      (tape.cells.take tape.head).map .plain ++
        .marked tape.peek :: (tape.cells.drop (tape.head + 1)).map .plain := by
  rw [take_head_cells, drop_head_cells, shownCells]
  cases ahead : tape.ahead with
  | nil =>
      -- No stored cell is at the place of the head: the marked one is the blank behind them.
      have cells : tape.cells = tape.behind.reverse := by simp [cells, ahead]
      have beyond : tape.cells.length ≤ tape.head := by simp [cells, head]
      rw [if_pos beyond, ShownCell.markAt_of_length_le beyond, cells]
      simp [peek, ahead]
  | cons cell rest =>
      have cells : tape.cells = tape.behind.reverse ++ cell :: rest := by simp [cells, ahead]
      have inside : ¬ tape.cells.length ≤ tape.head := by simp [cells, head]
      have place : tape.head = tape.behind.reverse.length := by simp [head]
      rw [if_neg inside, cells, place, ShownCell.markAt_append_cons]
      simp [peek, ahead]

/-- The text shows the cells one after the other. -/
theorem render_eq_shownCells (tape : Tape) :
    tape.render = String.ofList (tape.shownCells.flatMap ShownCell.text) := by
  rw [shownCells_eq, take_head_cells, drop_head_cells, List.flatMap_append, List.flatMap_cons,
    ShownCell.flatMap_text_plain, ShownCell.flatMap_text_plain]
  rfl

theorem render_eq_around_head (tape : Tape) :
    tape.render = String.ofList
      (tape.cells.take tape.head ++ '[' :: tape.peek :: ']' :: tape.cells.drop (tape.head + 1)) := by
  rw [take_head_cells, drop_head_cells]
  rfl

theorem length_take_head_cells : (tape.cells.take tape.head).length = tape.head := by
  rw [take_head_cells, List.length_reverse, head]

/-- The text and the symbol under the head are about the cell at the place of the head. -/
structure MarksHead (tape : Tape) : Prop where
  /-- That cell has the symbol under the head. It is blank if it is not stored. -/
  peek_eq : tape.peek = tape.cells[tape.head]?.getD tape.blank
  /-- The text shows the cells one after the other. -/
  render_eq : tape.render = String.ofList (tape.shownCells.flatMap ShownCell.text)
  /-- That cell is marked in it, and no other. -/
  marked_iff : ∀ place symbol,
    tape.shownCells[place]? = some (.marked symbol) ↔ place = tape.head ∧ symbol = tape.peek
  /-- Before and behind it stand the cells on both sides of the head. -/
  around : tape.render = String.ofList
    (tape.cells.take tape.head ++ '[' :: tape.peek :: ']' :: tape.cells.drop (tape.head + 1))

theorem marksHead (tape : Tape) : tape.MarksHead where
  peek_eq := peek_eq_getD
  render_eq := tape.render_eq_shownCells
  marked_iff := fun place symbol => by
    rw [shownCells_eq, ShownCell.getElem?_eq_marked_iff, length_take_head_cells]
  around := tape.render_eq_around_head

/-! ### Tapes that show the same -/

/-- Two tapes show the same symbol under a head at the same place, and the same text. -/
structure LooksAs (first second : Tape) : Prop where
  peek_eq : first.peek = second.peek
  head_eq : first.head = second.head
  position_eq : first.position = second.position
  offset_eq : first.offset = second.offset
  render_eq : first.render = second.render

/-- A blank that is stored under the head is not shown. -/
theorem looksAs_settle (tape : Tape) : tape.settle.LooksAs tape where
  peek_eq := tape.peek_settle
  head_eq := congrArg List.length tape.settle_behind
  position_eq := settle_position
  offset_eq := tape.settle_offset
  render_eq := by
    have tail : tape.settle.ahead.tail = tape.ahead.tail := by
      unfold settle
      split <;> rename_i stored <;> simp [stored]
    rw [render, peek_settle, settle_behind, tail, render]

end Tape

/-! ### Machines that show the same -/

namespace Machine

variable {machine : Machine}

/-- Two machines stand in the same state after as many rules, the same one taken last, and show the same symbols
    and the same line of a trace. -/
structure LooksAs (first second : Machine) : Prop where
  current_eq : first.current = second.current
  currentState_eq : first.currentState = second.currentState
  lastTransition_eq : first.lastTransition = second.lastTransition
  stepCount_eq : first.stepCount = second.stepCount
  symbols_eq : first.symbols = second.symbols
  row_eq : TraceRow.ofMachine first = TraceRow.ofMachine second

theorem LooksAs.refl (machine : Machine) : machine.LooksAs machine := ⟨rfl, rfl, rfl, rfl, rfl, rfl⟩

/-- How a machine has halted is not shown. -/
theorem LooksAs.haltWith {first second : Machine} (looks : first.LooksAs second) (halt : Halt) :
    (first.haltWith halt).LooksAs second :=
  ⟨looks.current_eq, looks.currentState_eq, looks.lastTransition_eq, looks.stepCount_eq,
    looks.symbols_eq, looks.row_eq⟩

/-- To read the tapes changes nothing that they show. -/
theorem looksAs_readTapes (machine : Machine) : machine.readTapes.LooksAs machine where
  current_eq := rfl
  currentState_eq := rfl
  lastTransition_eq := rfl
  stepCount_eq := rfl
  symbols_eq := machine.readTapes_symbols
  row_eq := by
    have texts : machine.readTapes.tapes.map Tape.render = machine.tapes.map Tape.render := by
      rw [readTapes, List.map_map]
      exact List.map_congr_left fun tape _ => tape.looksAs_settle.render_eq
    simp only [TraceRow.ofMachine, texts]
    rfl

/-- A step that halts without accepting has done no more than to read the tapes. -/
theorem StepOutcome.looksAs {next : Machine} {halt : Halt}
    (outcome : StepOutcome machine next (.halted halt)) (rejects : halt.isAccepted = false) :
    next.LooksAs machine := by
  cases outcome with
  | resting halted => exact .refl machine
  | stuck live noRule => exact machine.looksAs_readTapes.haltWith _
  | accepting live rule accepts => cases rejects

theorem looksAs_of_rejects {reason : Rejection} (rejects : machine.step.2 = .halted (.rejected reason)) :
    machine.step.1.LooksAs machine := by
  have outcome := machine.step_outcome
  rw [rejects] at outcome
  exact outcome.looksAs rfl

end Machine

open Tape (wornTape)

/-- Looking changes nothing that is shown. Whatever was done to a tape, a read returns the symbol under the head
    and leaves that symbol, the place of the head and the text as they were, even where it has to store the
    cell that it reads; and the text is the cells with the one under the head marked, and no other. So a
    step that rejects, for whatever reason, leaves a machine that looks as before. -/
theorem looking_changes_nothing_shown :
    (∀ tape : Tape, tape.Reachable →
      tape.read.1 = tape.peek ∧ tape.read.2.LooksAs tape ∧
        tape.read.2.cells[tape.head]? = some tape.peek ∧
        tape.read.2.cells = (if tape.cells = [] then [tape.blank] else tape.cells) ∧
        tape.MarksHead) ∧
      ∀ (machine : Machine) (reason : Rejection), machine.step.2 = .halted (.rejected reason) →
        machine.step.1.LooksAs machine := by
  refine ⟨fun tape reachable => ?_, fun _ _ rejects => Machine.looksAs_of_rejects rejects⟩
  have inside := Tape.headInside_of_reachable reachable
  exact ⟨tape.peek_settle, tape.looksAs_settle, Tape.read_stores, inside.cells_read, tape.marksHead⟩

/-- A machine with two tapes that was given an input which the tapes refuse behind its first symbol. -/
def refusedZerosOnes : Machine := ((Machine.ofProgram Catalog.zerosOnesTable).start ['1', '.']).1

/-- The worn tape, and the same tape once it has been cleared, where a read stores a cell; and a machine whose
    first tape refused an input halfway, so that the second one has no cell until the step that rejects. -/
theorem looking_changes_nothing_on_wornTape :
    wornTape.Reachable ∧ wornTape.render = "[#]b" ∧ wornTape.read.2.LooksAs wornTape ∧
      wornTape.clear.Reachable ∧ wornTape.clear.cells = [] ∧ wornTape.clear.read.2.cells = ['#'] ∧
      wornTape.clear.read.2.LooksAs wornTape.clear ∧ wornTape.clear.read.2.render = "[#]" ∧
      refusedZerosOnes.step.2 = .halted (.rejected (.stuck "start" ['1', '_'])) ∧
      refusedZerosOnes.step.1.tapes ≠ refusedZerosOnes.tapes ∧
      refusedZerosOnes.step.1.LooksAs refusedZerosOnes := by
  obtain ⟨tapes, machines⟩ := looking_changes_nothing_shown
  have worn : wornTape.Reachable := ⟨_, _, _, rfl⟩
  have cleared : wornTape.clear.Reachable := worn.perform .clear
  obtain ⟨-, wornLooks, -⟩ := tapes wornTape worn
  obtain ⟨-, clearedLooks, -, stored, -⟩ := tapes wornTape.clear cleared
  have rejects : refusedZerosOnes.step.2 = .halted (.rejected (.stuck "start" ['1', '_'])) := rfl
  exact ⟨worn, rfl, wornLooks, cleared, rfl, stored, clearedLooks, clearedLooks.render_eq, rejects,
    by decide, machines refusedZerosOnes _ rejects⟩

end Multitape
