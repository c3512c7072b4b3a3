/-
Module: Multitape.Proofs.Recurrence
Purpose: A machine that comes back to where it has been goes on for ever. A step depends on the state, on
  the stored cells and on where the heads stand among them, and on nothing that is counted: neither on how
  often a tape has grown in front of its first cell nor on the rules taken. So what followed the first
  time follows again, and none of it was the step that halts.
Main exports: Tape.uncounted, Transition.map_uncounted_execute, Machine.StandsAs, Machine.Recalls,
  Recalls.inStep, advances_of_running, recalls_of_again, advanced_of_again,
  repeated_configuration_never_halts
-/
import Multitape.Proofs.Lockstep
import Multitape.Proofs.MachineInvariant

namespace Multitape

/-! ### Tapes without what they count -/

namespace Tape

/-- A tape that has forgotten how many cells were put in front of its first one. -/
def uncounted (tape : Tape) : Tape := { tape with offset := 0 }

variable (tape : Tape)

@[simp] theorem cells_uncounted : tape.uncounted.cells = tape.cells := rfl

@[simp] theorem head_uncounted : tape.uncounted.head = tape.head := rfl

@[simp] theorem peek_uncounted : tape.uncounted.peek = tape.peek := rfl

theorem uncounted_settle : tape.settle.uncounted = tape.uncounted.settle := by
  obtain ⟨behind, ahead, offset, alphabet, blank⟩ := tape
  cases ahead <;> rfl

theorem uncounted_write (symbol : Char) :
    (tape.write symbol).uncounted = tape.uncounted.write symbol := rfl

/-- A move to the left counts again, so what it counts is forgotten once more. -/
theorem uncounted_shift (direction : Direction) :
    (tape.shift direction).uncounted = (tape.uncounted.shift direction).uncounted := by
  obtain ⟨behind, ahead, offset, alphabet, blank⟩ := tape
  cases direction with
  | left => cases behind <;> rfl
  | right =>
      rcases ahead with _ | ⟨_, _ | _⟩ <;> rfl
  | stay => rfl

/-- Tapes of one alphabet and one blank that have the same cells, and their heads on the same of them,
    differ in what they count at most. -/
theorem uncounted_eq {alphabet : Alphabet} {blank : Char} {first second : Tape}
    (firstSound : first.Sound alphabet blank) (secondSound : second.Sound alphabet blank)
    (cells : second.cells = first.cells) (head : second.head = first.head) :
    second.uncounted = first.uncounted := by
  have length : second.behind.reverse.length = first.behind.reverse.length := by
    rw [List.length_reverse, List.length_reverse]
    exact head
  obtain ⟨behind, ahead⟩ := List.append_inj cells length
  have alphabet_eq := secondSound.alphabet_eq.trans firstSound.alphabet_eq.symm
  have blank_eq := secondSound.blank_eq.trans firstSound.blank_eq.symm
  simp only [uncounted, List.reverse_inj.1 behind, ahead, alphabet_eq, blank_eq]

/-- The same for rows of tapes. -/
theorem map_uncounted_eq {alphabet : Alphabet} {blank : Char} {firsts seconds : List Tape}
    (firstsSound : ∀ tape ∈ firsts, tape.Sound alphabet blank)
    (secondsSound : ∀ tape ∈ seconds, tape.Sound alphabet blank)
    (cells : seconds.map Tape.cells = firsts.map Tape.cells)
    (heads : seconds.map Tape.head = firsts.map Tape.head) :
    seconds.map uncounted = firsts.map uncounted := by
  induction firsts generalizing seconds with
  | nil => rw [List.map_eq_nil_iff.1 cells]
  | cons first firsts ih =>
      obtain ⟨second, seconds, rfl, firstCells, otherCells⟩ := List.map_eq_cons_iff.1 cells
      obtain ⟨firstHead, otherHeads⟩ := List.cons.inj heads
      obtain ⟨firstSound, firstsSound⟩ := List.forall_mem_cons.1 firstsSound
      obtain ⟨secondSound, secondsSound⟩ := List.forall_mem_cons.1 secondsSound
      rw [List.map_cons, List.map_cons, uncounted_eq firstSound secondSound firstCells firstHead,
        ih firstsSound secondsSound otherCells otherHeads]

end Tape

namespace Transition

theorem map_uncounted_writeAll (tapes : List Tape) (symbols : List Char) :
    (writeAll tapes symbols).map Tape.uncounted = writeAll (tapes.map Tape.uncounted) symbols := by
  rw [writeAll_eq_actAll, writeAll_eq_actAll]
  exact map_actAll Tape.uncounted_write tapes symbols

theorem map_uncounted_shiftAll (tapes : List Tape) (directions : List Direction) :
    (shiftAll tapes directions).map Tape.uncounted =
      (shiftAll (tapes.map Tape.uncounted) directions).map Tape.uncounted := by
  have forgotten : ∀ row : List Tape, (shiftAll row directions).map Tape.uncounted =
      actAll (fun tape direction => (tape.shift direction).uncounted) (row.map Tape.uncounted)
        directions := by
    intro row
    rw [shiftAll_eq_actAll]
    exact map_actAll Tape.uncounted_shift row directions
  rw [forgotten, forgotten, List.map_map]
  rfl

/-- What a rule does to the cells and the heads does not depend on what the tapes count. -/
theorem map_uncounted_execute (transition : Transition) (tapes : List Tape) :
    (transition.execute tapes).map Tape.uncounted =
      (transition.execute (tapes.map Tape.uncounted)).map Tape.uncounted := by
  rw [execute, execute, map_uncounted_shiftAll, map_uncounted_writeAll]

end Transition

namespace Machine

variable {program : Program} {machine first second : Machine}

/-! ### Machines that stand alike -/

/-- The second machine stands as the first one does: in the same state, and with the same cells on every
    tape and the head on the same of them. What is counted may differ, and so may the last rule. -/
structure StandsAs (first second : Machine) : Prop where
  current_eq : second.current = first.current
  cells_eq : second.tapes.map Tape.cells = first.tapes.map Tape.cells
  heads_eq : second.tapes.map Tape.head = first.tapes.map Tape.head

/-- Two sound machines of a program stand alike, and have the same status. -/
structure Recalls (program : Program) (first second : Machine) : Prop where
  first_sound : first.Sound program
  second_sound : second.Sound program
  current_eq : second.current = first.current
  status_eq : second.status = first.status
  tapes_eq : second.tapes.map Tape.uncounted = first.tapes.map Tape.uncounted

theorem StandsAs.recalls (stands : first.StandsAs second) (firstSound : first.Sound program)
    (secondSound : second.Sound program) (status : second.status = first.status) :
    Recalls program first second where
  first_sound := firstSound
  second_sound := secondSound
  current_eq := stands.current_eq
  status_eq := status
  tapes_eq := Tape.map_uncounted_eq firstSound.tapes_sound secondSound.tapes_sound stands.cells_eq
    stands.heads_eq

namespace Recalls

/-- What forgets the counts of the tapes anyway is the same of both machines. -/
theorem map_eq {α : Type} (recalls : Recalls program first second) {shown : Tape → α}
    (forgets : ∀ tape, shown tape.uncounted = shown tape) :
    second.tapes.map shown = first.tapes.map shown := by
  have same := congrArg (List.map shown) recalls.tapes_eq
  rwa [List.map_map, List.map_map, funext (f := shown ∘ Tape.uncounted) forgets] at same

theorem standsAs (recalls : Recalls program first second) : first.StandsAs second where
  current_eq := recalls.current_eq
  cells_eq := recalls.map_eq Tape.cells_uncounted
  heads_eq := recalls.map_eq Tape.head_uncounted

theorem symbols_eq (recalls : Recalls program first second) : second.symbols = first.symbols :=
  recalls.map_eq Tape.peek_uncounted

theorem currentState_eq (recalls : Recalls program first second) :
    second.currentState = first.currentState := by
  rw [currentState, currentState, recalls.second_sound.program_eq, recalls.first_sound.program_eq,
    recalls.current_eq]

/-- Both machines read their tapes alike. -/
theorem readTapes (recalls : Recalls program first second) (wellFormed : program.WellFormed)
    (status : Status) :
    Recalls program { first.readTapes with status := status }
      { second.readTapes with status := status } where
  first_sound := (recalls.first_sound.readTapes wellFormed).withStatus status
  second_sound := (recalls.second_sound.readTapes wellFormed).withStatus status
  current_eq := recalls.current_eq
  status_eq := rfl
  tapes_eq := by
    have read : ∀ machine : Machine, machine.readTapes.tapes.map Tape.uncounted =
        (machine.tapes.map Tape.uncounted).map Tape.settle := by
      intro machine
      simp only [Machine.readTapes, List.map_map, Function.comp_def, Tape.uncounted_settle]
    exact (read second).trans ((congrArg _ recalls.tapes_eq).trans (read first).symm)

/-- A rule does the same to both. -/
theorem apply (recalls : Recalls program first second) (wellFormed : program.WellFormed)
    {transition : Transition} (fits : program.Fits transition) (status : Status) :
    Recalls program { first.readTapes.apply transition with status := status }
      { second.readTapes.apply transition with status := status } where
  first_sound :=
    ((recalls.first_sound.readTapes wellFormed).apply wellFormed fits).withStatus status
  second_sound :=
    ((recalls.second_sound.readTapes wellFormed).apply wellFormed fits).withStatus status
  current_eq := rfl
  status_eq := rfl
  tapes_eq := by
    have read : second.readTapes.tapes.map Tape.uncounted =
        first.readTapes.tapes.map Tape.uncounted :=
      (recalls.readTapes wellFormed status).tapes_eq
    show (transition.execute second.readTapes.tapes).map Tape.uncounted =
      (transition.execute first.readTapes.tapes).map Tape.uncounted
    rw [Transition.map_uncounted_execute, read, ← Transition.map_uncounted_execute]

/-- Both machines find the same rule, or none. -/
theorem inStep (recalls : Recalls program first second) (wellFormed : program.WellFormed) :
    InStep id (Recalls program) first second where
  kept := recalls
  status_eq := by
    rw [Status.retell_id]
    exact recalls.status_eq
  stuck := by
    intro _ _
    refine ⟨?_, fun status => ?_⟩
    · rw [Halt.retell_id, stuckHalt, stuckHalt, recalls.currentState_eq, recalls.symbols_eq]
    · rw [Status.retell_id]
      exact recalls.readTapes wellFormed status
  rules := by
    intro _
    have rule : second.nextRule? = first.nextRule? := by
      rw [nextRule?, nextRule?, recalls.currentState_eq, recalls.symbols_eq]
    rw [rule]
    cases found : first.nextRule? with
    | none => exact .none
    | some transition =>
        have fits := recalls.first_sound.fits_of_nextRule? wellFormed found
        refine .some ⟨?_, fun status => ?_⟩
        · rw [recalls.second_sound.program_eq, recalls.first_sound.program_eq]
        · rw [Status.retell_id]
          exact recalls.apply wellFormed fits status

end Recalls

/-! ### Machines that run -/

/-- A machine that runs after some steps has advanced with each of them: a halt is never left. -/
theorem advances_of_running {count : Nat} (running : (stepTimes count machine).status = .running) :
    machine.Advances count := by
  rcases machine.haltsWithin_or_advances count with ⟨earlier, below, halt, halts⟩ | advances
  · have halted : (stepTimes (earlier + 1) machine).status = .halted halt := by
      have outcome := (stepTimes earlier machine).step_outcome
      rw [halts.halts] at outcome
      rw [stepTimes_succ]
      exact outcome.status_eq
    have rests : (stepTimes count machine).status = .halted halt := by
      obtain ⟨rest, rfl⟩ := Nat.exists_eq_add_of_le (Nat.succ_le_of_lt below)
      rw [stepTimes_add, stepTimes_of_halted halted]
      exact halted
    rw [running] at rests
    cases rests
  · exact advances

/-! ### Machines that come back -/

section Again

variable {earlier later : Nat}

/-- What followed the first time follows again. -/
theorem recalls_of_again (wellFormed : program.WellFormed) (before : earlier < later)
    (again : Recalls program (stepTimes earlier machine) (stepTimes later machine)) {count : Nat}
    (after : earlier ≤ count) :
    (stepTimes (count + (later - earlier)) machine).step.2 = (stepTimes count machine).step.2 ∧
      Recalls program (stepTimes count machine) (stepTimes (count + (later - earlier)) machine) := by
  obtain ⟨more, rfl⟩ := Nat.exists_eq_add_of_le after
  have shifted : earlier + more + (later - earlier) = later + more := by omega
  obtain ⟨answers, recalls⟩ := kept_stepTimes (fun kept => kept.inStep wellFormed) again more
  rw [Step.retell_id] at answers
  rw [shifted, stepTimes_add, stepTimes_add]
  exact ⟨answers, recalls⟩

/-- No step is the one that halts: it would have to be among those before the machine came back, or follow
    one that it repeats. -/
theorem advanced_of_again (wellFormed : program.WellFormed) (before : earlier < later)
    (again : Recalls program (stepTimes earlier machine) (stepTimes later machine))
    (running : (stepTimes later machine).status = .running) (count : Nat) :
    (stepTimes count machine).step.2 = .advanced := by
  induction count using Nat.strong_induction_on with
  | _ count ih =>
      rcases Nat.lt_or_ge count later with sooner | after
      -- Before the machine came back it advanced, for it was still running then.
      · exact advances_of_running running count sooner
      · have followed : earlier ≤ count - (later - earlier) := by omega
        have repeats := (recalls_of_again wellFormed before again followed).1
        rw [Nat.sub_add_cancel (by omega), ih (count - (later - earlier)) (by omega)] at repeats
        exact repeats

/-- A repeated configuration never halts. If a machine of a built program, whatever was done to it before,
    runs in the same state with the same cells and heads after two different numbers of steps, then it
    advances with every step, so that it never halts and every step takes a rule; and from the first of
    the two on it stands as it does so many steps later as lie between them. -/
theorem repeated_configuration_never_halts {declarations : Declarations}
    (built : declarations.build = .ok program) (reachable : Reachable program machine)
    (before : earlier < later) (runs : (stepTimes earlier machine).status = .running)
    (running : (stepTimes later machine).status = .running)
    (stands : (stepTimes earlier machine).StandsAs (stepTimes later machine)) :
    (∀ count, (stepTimes count machine).step.2 = .advanced ∧
      (stepTimes count machine).halt? = none ∧
      (stepTimes count machine).stepCount = machine.stepCount + count) ∧
    ∀ count, earlier ≤ count →
      (stepTimes count machine).status = .running ∧
      (stepTimes count machine).StandsAs (stepTimes (count + (later - earlier)) machine) := by
  have wellFormed : program.WellFormed := wellFormed_of_build built
  have sound : ∀ count, (stepTimes count machine).Sound program := fun count =>
    stepTimes_induction (fun _ kept => kept.step wellFormed) count
      (sound_of_reachable wellFormed reachable)
  have again : Recalls program (stepTimes earlier machine) (stepTimes later machine) :=
    stands.recalls (sound earlier) (sound later) (running.trans runs.symm)
  have advanced := advanced_of_again wellFormed before again running
  refine ⟨fun count => ⟨advanced count, ?_, ?_⟩, fun count after => ⟨?_, ?_⟩⟩
  · refine halt?_eq_none_iff.2 fun halt halted => ?_
    have answer := advanced count
    rw [step_of_halted halted] at answer
    cases answer
  · have advances : machine.Advances count := fun other _ => advanced other
    exact advances.stepCount
  · rcases Nat.eq_or_lt_of_le after with rfl | later
    · exact runs
    · obtain ⟨rest, rfl⟩ := Nat.exists_eq_add_of_lt later
      rw [stepTimes_succ]
      exact running_of_advanced (advanced (earlier + rest))
  · exact (recalls_of_again wellFormed before again after).2.standsAs

end Again

end Machine

/-- The declarations of a machine whose heads go to and fro on two tapes, each away from where the other
    one goes. Both tapes grow on the first way out, at different ends. -/
def Declarations.pendulum : Declarations where
  states := ["out", "home", "done"]
  inputAlphabet := Alphabet.ofList ['0', '1']
  tapeAlphabet := Alphabet.ofList ['0', '1', '_']
  tapeCount := 2
  initial := some "out"
  accepting := ["done"]
  rules :=
    [ ⟨"out", ['.', '.'], "home", ['0', '1'], [.right, .left]⟩,
      ⟨"home", ['.', '.'], "out", ['1', '_'], [.left, .right]⟩ ]

namespace Machine

open Declarations (pendulum)

/-- The pendulum with an input on it. -/
def swinging : Machine := (ofProgram pendulum.program).performAll [.start ['1']]

/-- It stands after four steps as it did after two, and swings for ever. -/
theorem repeated_configuration_of_pendulum :
    pendulum.build = .ok pendulum.program ∧ Reachable pendulum.program swinging ∧
      (stepTimes 2 swinging).status = .running ∧ (stepTimes 4 swinging).status = .running ∧
      (stepTimes 2 swinging).StandsAs (stepTimes 4 swinging) ∧
      (∀ count, (stepTimes count swinging).step.2 = .advanced) ∧
      ∀ count, 2 ≤ count → (stepTimes count swinging).StandsAs (stepTimes (count + 2) swinging) := by
  have built : pendulum.build = .ok pendulum.program := rfl
  have reachable : Reachable pendulum.program swinging := ⟨[.start ['1']], rfl⟩
  have stands : (stepTimes 2 swinging).StandsAs (stepTimes 4 swinging) := ⟨rfl, rfl, rfl⟩
  obtain ⟨endless, repeats⟩ :=
    repeated_configuration_never_halts built reachable (by decide) rfl rfl stands
  exact ⟨built, reachable, rfl, rfl, stands, fun count => (endless count).1,
    fun count after => (repeats count after).2⟩

end Machine

end Multitape
