/-
Module: Multitape.Proofs.TallyTape
Purpose: The bundled machine `zeros-ones` accepts some zeros followed by as many ones, and nothing else.
  Its second tape is a tally with a mark for each zero that has been copied. For each one its head steps
  over a mark to the left, and it stands in front of the first mark when all are matched. Every symbol is
  passed once, so the machine is done in linear time.
Main exports: Catalog.Owed, Catalog.answers_match, Catalog.answers_copy, Catalog.answers_start,
  Catalog.zerosOnes_decides_pairs
-/
import Multitape.Proofs.BundledTables
import Multitape.Proofs.Decision

namespace Multitape.Catalog

/-! ### What is ahead of the marks -/

/-- Zeros, and then a one for each of them and for each mark. -/
def Owed (marks : Nat) (word : List Char) : Prop :=
  ∃ zeros, word = List.replicate zeros '0' ++ List.replicate (zeros + marks) '1'

theorem owed_nil_iff {marks : Nat} : Owed marks [] ↔ marks = 0 := by
  simp [Owed]

/-- A zero that is copied is one mark more. -/
theorem owed_zero_iff {marks : Nat} {word : List Char} :
    Owed marks ('0' :: word) ↔ Owed (marks + 1) word := by
  constructor
  · rintro ⟨zeros, same⟩
    cases zeros with
    | zero => cases marks <;> simp [List.replicate_succ] at same
    | succ zeros =>
        refine ⟨zeros, ?_⟩
        rw [List.replicate_succ, List.cons_append, Nat.add_right_comm] at same
        exact (List.cons.inj same).2
  · rintro ⟨zeros, rfl⟩
    exact ⟨zeros + 1, by rw [List.replicate_succ, List.cons_append, Nat.add_right_comm, Nat.add_assoc]⟩

/-- From the first one on there are only ones. -/
theorem owed_one_iff {marks : Nat} {word : List Char} :
    Owed marks ('1' :: word) ↔ '1' :: word = List.replicate marks '1' := by
  constructor
  · rintro ⟨zeros, same⟩
    cases zeros with
    | zero => simpa using same
    | succ zeros => simp [List.replicate_succ] at same
  · intro same
    exact ⟨0, by simpa using same⟩

/-! ### The three states -/

/-- While ones are matched, the head of the tally has just left the marks to its left. The machine accepts
    if there is a one ahead for each of them. -/
theorem answers_match {word : List Char} (letters : ∀ symbol ∈ word, symbol = '0' ∨ symbol = '1')
    (marks : Nat) (behind : List Char) (cell : Char) (ahead : List Char) :
    zerosOnesTable.Answers (word.length + 1)
      ⟨2, [zerosOnesTable.tape behind word,
        (zerosOnesTable.tape (List.replicate marks 'X') (cell :: ahead)).moveLeft]⟩
      (word = List.replicate marks '1') := by
  induction word generalizing marks behind cell ahead with
  | nil =>
      cases marks with
      | zero =>
          -- The head has gone past the first mark to a blank, which may not have been stored yet.
          have accept : Passage zerosOnesTable 1
              ⟨2, [zerosOnesTable.tape behind [], (zerosOnesTable.tape [] (cell :: ahead)).moveLeft]⟩
              ⟨3, _⟩ := .both rfl rfl rfl rfl
          exact .of_passage accept (.of_accepting rfl rfl)
      | succ marks => exact .of_stuck rfl rfl (by simp)
  | cons head tail ih =>
      obtain ⟨rfl | rfl, others⟩ := List.forall_mem_cons.1 letters
      · cases marks with
        | zero => exact .of_stuck rfl rfl (by simp)
        | succ marks => exact .of_stuck rfl rfl (by simp [List.replicate_succ])
      · cases marks with
        | zero => exact .of_stuck rfl rfl (by simp)
        | succ marks =>
            have cancel : Passage zerosOnesTable 1
                ⟨2, [zerosOnesTable.tape behind ('1' :: tail),
                  zerosOnesTable.tape (List.replicate marks 'X') ('X' :: cell :: ahead)]⟩
                ⟨2, [zerosOnesTable.tape ('1' :: behind) tail,
                  (zerosOnesTable.tape (List.replicate marks 'X') ('X' :: cell :: ahead)).moveLeft]⟩ :=
              .both rfl rfl Tape.settle_shift_right Tape.settle_shift_left
            have rest := (ih others marks ('1' :: behind) 'X' (cell :: ahead)).of_passage cancel
            exact rest.congr (by simp [List.replicate_succ])

/-- While zeros are copied, the tally has a mark for each zero passed. -/
theorem answers_copy {word : List Char} (letters : ∀ symbol ∈ word, symbol = '0' ∨ symbol = '1')
    (marks : Nat) (behind : List Char) :
    zerosOnesTable.Answers (word.length + 2)
      ⟨1, [zerosOnesTable.tape behind word,
        zerosOnesTable.tape (List.replicate (marks + 1) 'X') []]⟩
      (Owed (marks + 1) word) := by
  induction word generalizing marks behind with
  | nil => exact .of_stuck rfl rfl (by simp [owed_nil_iff])
  | cons head tail ih =>
      obtain ⟨rfl | rfl, others⟩ := List.forall_mem_cons.1 letters
      · have copy : Passage zerosOnesTable 1
            ⟨1, [zerosOnesTable.tape behind ('0' :: tail),
              zerosOnesTable.tape (List.replicate (marks + 1) 'X') ['_']]⟩
            ⟨1, [zerosOnesTable.tape ('0' :: behind) tail,
              zerosOnesTable.tape (List.replicate (marks + 2) 'X') []]⟩ :=
          .both rfl rfl Tape.settle_shift_right Tape.settle_shift_right
        have rest := (ih others (marks + 1) ('0' :: behind)).of_passage copy
        exact rest.congr owed_zero_iff.symm
      · have turn : Passage zerosOnesTable 1
            ⟨1, [zerosOnesTable.tape behind ('1' :: tail),
              zerosOnesTable.tape (List.replicate (marks + 1) 'X') ['_']]⟩
            ⟨2, [zerosOnesTable.tape behind ('1' :: tail),
              (zerosOnesTable.tape (List.replicate (marks + 1) 'X') ['_']).moveLeft]⟩ :=
          .both rfl rfl rfl Tape.settle_shift_left
        have rest := (answers_match letters (marks + 1) behind '_' []).of_passage turn
        exact rest.congr owed_one_iff.symm

/-- At the start there is no mark. -/
theorem answers_start {word : List Char} (letters : ∀ symbol ∈ word, symbol = '0' ∨ symbol = '1') :
    zerosOnesTable.Answers (word.length + 2)
      ⟨0, [zerosOnesTable.tape [] word, zerosOnesTable.tape [] []]⟩ (Owed 0 word) := by
  cases word with
  | nil =>
      have accept : Passage zerosOnesTable 1
          ⟨0, [zerosOnesTable.tape [] [], zerosOnesTable.tape [] []]⟩
          ⟨3, [zerosOnesTable.tape [] [], zerosOnesTable.tape [] []]⟩ := .both rfl rfl rfl rfl
      have rest : zerosOnesTable.Answers 1
          ⟨3, [zerosOnesTable.tape [] [], zerosOnesTable.tape [] []]⟩ (Owed 0 []) :=
        .of_accepting rfl (owed_nil_iff.2 rfl)
      have answer := rest.of_passage accept
      exact answer
  | cons head tail =>
      obtain ⟨rfl | rfl, others⟩ := List.forall_mem_cons.1 letters
      · have copy : Passage zerosOnesTable 1
            ⟨0, [zerosOnesTable.tape [] ('0' :: tail), zerosOnesTable.tape [] ['_']]⟩
            ⟨1, [zerosOnesTable.tape ['0'] tail, zerosOnesTable.tape (List.replicate 1 'X') []]⟩ :=
          .both rfl rfl Tape.settle_shift_right Tape.settle_shift_right
        exact ((answers_copy others 0 ['0']).of_passage copy).congr owed_zero_iff.symm
      · exact .of_stuck rfl rfl (by simp [owed_one_iff])

/-! ### The language -/

theorem takes_zerosOnes : zerosOnesTable.Takes ['0', '1'] where
  tapes_pos := by decide
  running := rfl
  wildcard_not_mem := by simp [zerosOnesTable, wildcard]
  mem_input_iff := fun symbol => Alphabet.mem_ofList
  letters_mem := by simp [zerosOnesTable]

/-- The bundled machine `zeros-ones` decides the words of some zeros and as many ones. It halts on every
    word, and takes at most two rules more than the word has symbols. -/
theorem zerosOnes_decides_pairs :
    ∃ program, programNamed "zeros-ones" = .ok program ∧ ∀ word : List Char,
      ∃ run, (Machine.ofProgram program).run (word.length + 3) word = some run ∧
        run.final.stepCount ≤ word.length + 2 ∧
        run.Decides ['0', '1']
          (fun word => ∃ count, word = List.replicate count '0' ++ List.replicate count '1') word := by
  have named : programNamed zerosOnesTable.name = .ok zerosOnesTable :=
    programNamed_name (by simp [programs_eq])
  have answers : ∀ word, (∀ symbol ∈ word, symbol ∈ ['0', '1']) →
      zerosOnesTable.Answers (word.length + 2) (.initial zerosOnesTable word)
        (∃ count, word = List.replicate count '0' ++ List.replicate count '1') := by
    intro word letters
    exact answers_start (by simpa using letters)
  exact ⟨zerosOnesTable, named, takes_zerosOnes.exists_run answers⟩

end Multitape.Catalog
