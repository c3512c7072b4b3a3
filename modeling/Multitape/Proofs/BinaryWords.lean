/-
Module: Multitape.Proofs.BinaryWords
Purpose: The bundled machines `even-ones` and `first-zero` decide languages of binary words. The first one goes
  over its word from end to end, and wherever it stands, its state is the parity of the ones that it has
  passed; so it takes a rule for each symbol, and one more if it accepts. The second one looks at the
  first symbol only.
Main exports: Catalog.passage_symbol, Catalog.passage_word, Catalog.exists_passage_evenOnes,
  Catalog.answers_firstZero, Tape.isPrefix_of_settle, Catalog.binary_words_are_decided
-/
import Mathlib.Algebra.Group.Nat.Even
import Multitape.Proofs.BundledTables
import Multitape.Proofs.Decision

namespace Multitape

/-- A word that is stored once the tape is read was stored before, but for a blank behind it. -/
theorem Tape.isPrefix_of_settle {tape : Tape} {word : List Char} {blank : Char}
    (read : tape.settle.cells = word ++ [blank]) : word <+: tape.cells := by
  cases ahead : tape.ahead with
  | nil =>
      have grown : tape.behind.reverse ++ [tape.blank] = word ++ [blank] := by
        rw [← read]
        simp [settle, ahead, cells]
      have same : tape.behind.reverse = word := (List.append_inj' grown rfl).1
      exact ⟨tape.ahead, by rw [cells, same]⟩
  | cons cell rest =>
      have settled : tape.settle = tape := by simp [settle, ahead]
      exact ⟨[blank], by rw [← read, settled]⟩

namespace Catalog

variable {word : List Char}

/-! ### An even number of ones -/

/-- Zeros and ones are passed in the state of the parity of ones: state 0 if it is even, state 1 if it
    is odd. -/
theorem passage_symbol {symbol : Char} (letter : symbol = '0' ∨ symbol = '1') (ones : Nat)
    (behind ahead : List Char) :
    Passage evenOnesTable 1 ⟨ones % 2, [evenOnesTable.tape behind (symbol :: ahead)]⟩
      ⟨(ones + [symbol].count '1') % 2, [evenOnesTable.tape (symbol :: behind) ahead]⟩ := by
  rcases Nat.mod_two_eq_zero_or_one ones with even | odd
  · rcases letter with rfl | rfl
    · rw [show (ones + ['0'].count '1') % 2 = 0 by simpa using even, even]
      exact .right rfl rfl _ _
    · rw [show (ones + ['1'].count '1') % 2 = 1 by simp; omega, even]
      exact .right rfl rfl _ _
  · rcases letter with rfl | rfl
    · rw [show (ones + ['0'].count '1') % 2 = 1 by simpa using odd, odd]
      exact .right rfl rfl _ _
    · rw [show (ones + ['1'].count '1') % 2 = 0 by simp; omega, odd]
      exact .right rfl rfl _ _

/-- A word is passed symbol by symbol. -/
theorem passage_word (letters : ∀ symbol ∈ word, symbol = '0' ∨ symbol = '1') (ones : Nat)
    (behind : List Char) :
    Passage evenOnesTable word.length ⟨ones % 2, [evenOnesTable.tape behind word]⟩
      ⟨(ones + word.count '1') % 2, [evenOnesTable.tape (word.reverse ++ behind) []]⟩ := by
  induction word generalizing ones behind with
  | nil => exact .rest _
  | cons symbol word ih =>
      obtain ⟨letter, others⟩ := List.forall_mem_cons.1 letters
      have first := passage_symbol letter ones behind word
      have rest := ih others (ones + [symbol].count '1') (symbol :: behind)
      have counted : (symbol :: word).count '1' = [symbol].count '1' + word.count '1' := by
        rw [← List.singleton_append, List.count_append]
      rw [List.length_cons, Nat.add_comm, counted, ← Nat.add_assoc, List.reverse_cons, List.append_assoc]
      exact first.trans rest

/-- Behind the word the machine accepts by one more rule, or it is stuck. It has left the word as it is. -/
theorem exists_passage_evenOnes (letters : ∀ symbol ∈ word, symbol = '0' ∨ symbol = '1') :
    ∃ place, Passage evenOnesTable (word.length + if Even (word.count '1') then 1 else 0)
        (.initial evenOnesTable word) ⟨place, [evenOnesTable.tape word.reverse []]⟩ ∧
      evenOnesTable.Ends ⟨place, [evenOnesTable.tape word.reverse []]⟩ ∧
      ((evenOnesTable.stateAt place).accepting = true ↔ Even (word.count '1')) := by
  have passed : Passage evenOnesTable word.length (.initial evenOnesTable word)
      ⟨(0 + word.count '1') % 2, [evenOnesTable.tape (word.reverse ++ []) []]⟩ :=
    passage_word letters 0 []
  rw [Nat.zero_add, List.append_nil] at passed
  by_cases even : Even (word.count '1')
  · rw [Nat.even_iff.1 even] at passed
    have accept : Passage evenOnesTable 1 ⟨0, [evenOnesTable.tape word.reverse ['_']]⟩
        ⟨2, [evenOnesTable.tape word.reverse ['_']]⟩ := .stay rfl rfl _ _
    rw [if_pos even]
    exact ⟨2, passed.trans accept, Or.inl rfl, iff_of_true rfl even⟩
  · rw [Nat.not_even_iff.1 even] at passed
    rw [if_neg even]
    exact ⟨1, passed, Or.inr rfl, iff_of_false (by decide) even⟩

theorem answers_evenOnes (letters : ∀ symbol ∈ word, symbol = '0' ∨ symbol = '1') :
    evenOnesTable.Answers (word.length + 1) (.initial evenOnesTable word) (Even (word.count '1')) := by
  obtain ⟨place, passage, ends, answer⟩ := exists_passage_evenOnes letters
  refine ⟨_, Nat.add_le_add_left ?_ word.length, _, passage, ends, answer⟩
  split <;> omega

/-! ### A zero in front -/

theorem answers_firstZero (letters : ∀ symbol ∈ word, symbol = '0' ∨ symbol = '1') :
    firstZeroTable.Answers 1 (.initial firstZeroTable word) (word.head? = some '0') := by
  cases word with
  | nil => exact .of_stuck rfl rfl (by simp)
  | cons head tail =>
      obtain ⟨rfl | rfl, -⟩ := List.forall_mem_cons.1 letters
      · have accept : Passage firstZeroTable 1 (.initial firstZeroTable ('0' :: tail))
            ⟨1, [firstZeroTable.tape ['0'] tail]⟩ := .right rfl rfl _ _
        exact .of_passage accept (.of_accepting rfl rfl)
      · exact .of_stuck rfl rfl (by simp)

/-! ### The languages -/

theorem takes_evenOnes : evenOnesTable.Takes ['0', '1'] where
  tapes_pos := by decide
  running := rfl
  wildcard_not_mem := by simp [evenOnesTable, wildcard]
  mem_input_iff := fun symbol => Alphabet.mem_ofList
  letters_mem := by simp [evenOnesTable]

theorem takes_firstZero : firstZeroTable.Takes ['0', '1'] where
  tapes_pos := by decide
  running := rfl
  wildcard_not_mem := by simp [firstZeroTable, wildcard]
  mem_input_iff := fun symbol => Alphabet.mem_ofList
  letters_mem := by simp [firstZeroTable]

/-- A run of `even-ones` on a binary word takes a rule for each symbol, and one more if it accepts. The tape still
    begins with the word. -/
theorem evenOnes_run {run : Run} (letters : ∀ symbol ∈ word, symbol ∈ ['0', '1'])
    (done : (Machine.ofProgram evenOnesTable).run (word.length + 2) word = some run) :
    ∃ answer tape, run.result = .ok answer ∧
      run.final.stepCount = (if answer then word.length + 1 else word.length) ∧
      run.final.tapes = [tape] ∧ word <+: tape.contents.toList := by
  have binary : ∀ symbol ∈ word, symbol = '0' ∨ symbol = '1' := by simpa using letters
  obtain ⟨place, passage, ends, answer⟩ := exists_passage_evenOnes binary
  obtain ⟨next, started, stands⟩ := Machine.start_fresh takes_evenOnes.tapes_pos fun symbol mem =>
    ⟨(takes_evenOnes.mem_input_iff symbol).2 (letters symbol mem),
      takes_evenOnes.letters_mem symbol (letters symbol mem)⟩
  have within : word.length + (if Even (word.count '1') then 1 else 0) < word.length + 2 := by
    split <;> omega
  obtain ⟨other, again, result, counted, stood⟩ :=
    Machine.run_passage started stands rfl passage ends within
  obtain rfl : run = other := Option.some.inj (done.symm.trans again)
  have settled : run.final.tapes.map Tape.settle = [evenOnesTable.tape word.reverse []] :=
    congrArg Situation.tapes stood
  obtain ⟨tape, tapes, read⟩ := List.map_eq_singleton_iff.1 settled
  refine ⟨_, tape, result, ?_, tapes, ?_⟩
  · by_cases even : Even (word.count '1')
    · simp [counted, even, answer.2 even]
    · have refused := mt answer.1 even
      simp [counted, even, refused]
  · have cells : tape.settle.cells = word ++ ['_'] := by
      rw [read]
      simp [Program.tape, Tape.settle, Tape.cells, evenOnesTable, Tape.withBlank]
    simpa [Tape.contents] using Tape.isPrefix_of_settle cells

/-- The bundled machines `even-ones` and `first-zero` decide the binary words with an even number of ones, and
    those that begin with a zero. On a binary word the first one takes a rule for each symbol, and one more if it
    accepts, and its tape still begins with the word; the second one takes at most one rule. -/
theorem binary_words_are_decided :
    (∃ program, programNamed "even-ones" = .ok program ∧ ∀ word : List Char,
      ∃ run, (Machine.ofProgram program).run (word.length + 2) word = some run ∧
        run.Decides ['0', '1'] (fun word => Even (word.count '1')) word ∧
        ((∀ symbol ∈ word, symbol ∈ ['0', '1']) → ∃ answer tape, run.result = .ok answer ∧
          run.final.stepCount = (if answer then word.length + 1 else word.length) ∧
          run.final.tapes = [tape] ∧ word <+: tape.contents.toList)) ∧
    ∃ program, programNamed "first-zero" = .ok program ∧ ∀ word : List Char,
      ∃ run, (Machine.ofProgram program).run 2 word = some run ∧ run.final.stepCount ≤ 1 ∧
        run.Decides ['0', '1'] (fun word => word.head? = some '0') word := by
  have evenOnes : programNamed evenOnesTable.name = .ok evenOnesTable :=
    programNamed_name (by simp [programs_eq])
  have firstZero : programNamed firstZeroTable.name = .ok firstZeroTable :=
    programNamed_name (by simp [programs_eq])
  refine ⟨⟨evenOnesTable, evenOnes, fun word => ?_⟩, firstZeroTable, firstZero,
    takes_firstZero.exists_run fun word letters => answers_firstZero (by simpa using letters)⟩
  obtain ⟨run, done, -, decides⟩ := takes_evenOnes.exists_run
    (fun word letters => answers_evenOnes (by simpa using letters)) word
  exact ⟨run, done, decides, fun letters => evenOnes_run letters done⟩

/-- The word `101` has an even number of ones, and `even-ones` accepts it by four rules. -/
theorem binary_words_are_decided_of_twoOnes :
    ∃ program run, programNamed "even-ones" = .ok program ∧
      (Machine.ofProgram program).run 5 ['1', '0', '1'] = some run ∧ run.result = .ok true ∧
      run.final.stepCount = 4 := by
  obtain ⟨⟨program, named, every⟩, -⟩ := binary_words_are_decided
  obtain ⟨run, done, decides, measured⟩ := every ['1', '0', '1']
  have letters : ∀ symbol ∈ ['1', '0', '1'], symbol ∈ ['0', '1'] := by simp
  obtain ⟨answer, result, belongs⟩ := decides.answered letters
  obtain ⟨other, tape, again, counted, -⟩ := measured letters
  obtain rfl : answer = true := belongs.2 (by decide)
  obtain rfl : true = other := Except.ok.inj (result.symm.trans again)
  exact ⟨program, run, named, done, result, counted⟩

end Catalog

end Multitape
