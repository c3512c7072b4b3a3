/-
Module: Multitape.Proofs.TapeByTape
Purpose: A rule goes over the tapes twice: it writes on all of them, and then it moves all heads. No tape
  takes part in what becomes of another, so one pass does the same: each tape is written and moved at once, as
  far as the rule has a symbol and a direction for it. The rows of symbols and directions may be of any
  lengths; what they have beyond the tapes is lost, and a tape beyond them stays as it is.
Main exports: Transition.actAll, writeAll_eq_actAll, shiftAll_eq_actAll, length_actAll, getElem?_actAll,
  actAll_append, actAll_map, map_actAll, forall_mem_actAll, length_execute, forall_mem_writeAll, forall_mem_shiftAll,
  Tape.treat, execute_eq_mapIdx, execute_cut, apply_treats_each_tape
-/
import Multitape.Machine

namespace Multitape

namespace Transition

/-! ### One pass -/

/-- Each of the first tapes undergoes one act. Surplus acts have no tape, surplus tapes stay as they are. -/
def actAll {α : Type} (act : Tape → α → Tape) : List Tape → List α → List Tape
  | tape :: tapes, one :: others => act tape one :: actAll act tapes others
  | tapes, _ => tapes

theorem writeAll_eq_actAll (tapes : List Tape) (symbols : List Char) :
    writeAll tapes symbols = actAll Tape.write tapes symbols := by
  induction tapes generalizing symbols with
  | nil => rfl
  | cons tape tapes ih =>
      cases symbols with
      | nil => rfl
      | cons symbol symbols => rw [writeAll, actAll, ih]

theorem shiftAll_eq_actAll (tapes : List Tape) (directions : List Direction) :
    shiftAll tapes directions = actAll Tape.shift tapes directions := by
  induction tapes generalizing directions with
  | nil => rfl
  | cons tape tapes ih =>
      cases directions with
      | nil => rfl
      | cons direction directions => rw [shiftAll, actAll, ih]

variable {α : Type} {act : Tape → α → Tape} {tapes : List Tape} {acts : List α}

@[simp] theorem length_actAll (tapes : List Tape) (acts : List α) :
    (actAll act tapes acts).length = tapes.length := by
  induction tapes generalizing acts with
  | nil => rfl
  | cons tape tapes ih => cases acts <;> simp [actAll, ih]

/-- A tape undergoes the act at its place, if there is one. -/
theorem getElem?_actAll (tapes : List Tape) (acts : List α) (place : Nat) :
    (actAll act tapes acts)[place]? =
      tapes[place]?.map fun tape => acts[place]?.elim tape (act tape) := by
  induction tapes generalizing acts place with
  | nil => rfl
  | cons tape tapes ih =>
      cases acts with
      | nil => simp [actAll]
      | cons one others =>
          cases place with
          | zero => rfl
          | succ place => exact ih others place

/-- If there is an act for each of some tapes, further acts are for the tapes behind them. -/
theorem actAll_append (length : acts.length = tapes.length)
    (others : List Tape) (more : List α) :
    actAll act (tapes ++ others) (acts ++ more) = actAll act tapes acts ++ actAll act others more := by
  induction tapes generalizing acts with
  | nil =>
      obtain rfl := List.length_eq_zero_iff.1 length
      rfl
  | cons tape tapes ih =>
      obtain ⟨one, acts, rfl⟩ := List.exists_cons_of_length_eq_add_one length
      rw [List.cons_append, List.cons_append, actAll, actAll, ih (Nat.succ.inj length), List.cons_append]

theorem actAll_map {β : Type} (rename : β → α) (tapes : List Tape) (acts : List β) :
    actAll act tapes (acts.map rename) = actAll (fun tape one => act tape (rename one)) tapes acts := by
  induction tapes generalizing acts with
  | nil => rfl
  | cons tape tapes ih =>
      cases acts with
      | nil => rfl
      | cons one others => rw [List.map_cons, actAll, actAll, ih]

/-- A change of every tape may come before the acts, if each act may be told of a changed tape. -/
theorem map_actAll {other : Tape → α → Tape} {change : Tape → Tape}
    (each : ∀ tape one, change (act tape one) = other (change tape) one) (tapes : List Tape)
    (acts : List α) : (actAll act tapes acts).map change = actAll other (tapes.map change) acts := by
  induction tapes generalizing acts with
  | nil => rfl
  | cons tape tapes ih =>
      cases acts with
      | nil => rfl
      | cons one others => rw [actAll, List.map_cons, List.map_cons, actAll, each, ih]

variable {Holds Acted : Tape → Prop}

/-- What an act makes of one tape, if there is one for it, acts make of all. -/
theorem forall_mem_actAll (still : ∀ tape, Holds tape → Acted tape)
    (acted : ∀ tape, ∀ one ∈ acts, Holds tape → Acted (act tape one))
    (holds : ∀ tape ∈ tapes, Holds tape) : ∀ tape ∈ actAll act tapes acts, Acted tape := by
  induction tapes generalizing acts with
  | nil => simp [actAll]
  | cons tape tapes ih =>
      cases acts with
      | nil => exact fun tape mem => still tape (holds tape mem)
      | cons one acts =>
          have first := acted tape one List.mem_cons_self (holds tape List.mem_cons_self)
          have others := ih (fun tape one mem => acted tape one (List.mem_cons_of_mem _ mem))
            (fun tape mem => holds tape (List.mem_cons_of_mem _ mem))
          exact List.forall_mem_cons.2 ⟨first, others⟩

/-! ### Writing and moving -/

@[simp] theorem length_writeAll (tapes : List Tape) (symbols : List Char) :
    (writeAll tapes symbols).length = tapes.length := by
  rw [writeAll_eq_actAll, length_actAll]

@[simp] theorem length_shiftAll (tapes : List Tape) (directions : List Direction) :
    (shiftAll tapes directions).length = tapes.length := by
  rw [shiftAll_eq_actAll, length_actAll]

@[simp] theorem length_execute (transition : Transition) (tapes : List Tape) :
    (transition.execute tapes).length = tapes.length := by
  simp [execute]

/-- What writing keeps on one tape, it keeps on all. -/
theorem forall_mem_writeAll {symbols : List Char}
    (kept : ∀ tape, ∀ symbol ∈ symbols, Holds tape → Holds (tape.write symbol))
    (holds : ∀ tape ∈ tapes, Holds tape) : ∀ tape ∈ writeAll tapes symbols, Holds tape := by
  rw [writeAll_eq_actAll]
  exact forall_mem_actAll (fun _ same => same) kept holds

/-- What moving makes of one tape, if it moves at all, it makes of all. -/
theorem forall_mem_shiftAll {directions : List Direction} (still : ∀ tape, Holds tape → Acted tape)
    (moved : ∀ tape direction, Holds tape → Acted (tape.shift direction))
    (holds : ∀ tape ∈ tapes, Holds tape) : ∀ tape ∈ shiftAll tapes directions, Acted tape := by
  rw [shiftAll_eq_actAll]
  exact forall_mem_actAll still (fun tape direction _ => moved tape direction) holds

end Transition

/-! ### Two passes are one -/

/-- A tape on which a symbol is written and whose head is moved, as far as there are a symbol and a
    direction. -/
def Tape.treat (tape : Tape) (symbol : Option Char) (direction : Option Direction) : Tape :=
  let written := symbol.elim tape tape.write
  direction.elim written written.shift

namespace Transition

/-- Writing everywhere and then moving everywhere is to go over the tapes once. -/
theorem execute_eq_mapIdx (transition : Transition) (tapes : List Tape) :
    transition.execute tapes = tapes.mapIdx fun place tape =>
      tape.treat transition.write[place]? transition.directions[place]? := by
  apply List.ext_getElem?
  intro place
  rw [execute, shiftAll_eq_actAll, writeAll_eq_actAll, getElem?_actAll, getElem?_actAll,
    List.getElem?_mapIdx, Option.map_map]
  rfl

/-- What a rule has beyond the tapes may be cut off. -/
theorem execute_cut (transition : Transition) (tapes : List Tape) :
    { transition with
      write := transition.write.take tapes.length
      directions := transition.directions.take tapes.length }.execute tapes =
      transition.execute tapes := by
  rw [execute_eq_mapIdx, execute_eq_mapIdx]
  apply List.ext_getElem?
  intro place
  rw [List.getElem?_mapIdx, List.getElem?_mapIdx]
  by_cases bound : place < tapes.length
  · rw [List.getElem?_take_of_lt bound, List.getElem?_take_of_lt bound]
  · rw [List.getElem?_eq_none (Nat.le_of_not_lt bound)]
    rfl

/-- Tapes for which there is neither a symbol nor a direction stay as they are. -/
theorem drop_execute (transition : Transition) (tapes : List Tape) :
    (transition.execute tapes).drop (max transition.write.length transition.directions.length) =
      tapes.drop (max transition.write.length transition.directions.length) := by
  apply List.ext_getElem?
  intro distance
  have noSymbol : transition.write[max transition.write.length transition.directions.length + distance]? =
      none := List.getElem?_eq_none (by omega)
  have noDirection :
      transition.directions[max transition.write.length transition.directions.length + distance]? =
        none := List.getElem?_eq_none (by omega)
  rw [List.getElem?_drop, List.getElem?_drop, execute_eq_mapIdx, List.getElem?_mapIdx, noSymbol,
    noDirection]
  exact Option.map_id'

end Transition

/-- A rule treats each tape for itself. Whatever the machine and its tapes, and however many symbols and
    directions the rule has, a machine that takes it comes to its target and has as many tapes as
    before. The tape at any place is the one that was there with the symbol of that place written on it
    and then moved in the direction of that place, as far as the rule has them. Tapes beyond both rows
    stay as they are, and symbols and directions beyond the tapes have no effect. -/
theorem Machine.apply_treats_each_tape (machine : Machine) (transition : Transition) :
    (machine.apply transition).tapes = transition.execute machine.tapes ∧
      (machine.apply transition).current = transition.target ∧
      (transition.execute machine.tapes).length = machine.tapes.length ∧
      (∀ place : Nat, (transition.execute machine.tapes)[place]? =
        machine.tapes[place]?.map fun tape =>
          tape.treat transition.write[place]? transition.directions[place]?) ∧
      (transition.execute machine.tapes).drop
          (max transition.write.length transition.directions.length) =
        machine.tapes.drop (max transition.write.length transition.directions.length) ∧
      { transition with
        write := transition.write.take machine.tapes.length
        directions := transition.directions.take machine.tapes.length }.execute machine.tapes =
        transition.execute machine.tapes := by
  refine ⟨rfl, rfl, transition.length_execute machine.tapes, fun place => ?_,
    transition.drop_execute machine.tapes, transition.execute_cut machine.tapes⟩
  rw [transition.execute_eq_mapIdx, List.getElem?_mapIdx]

end Multitape
