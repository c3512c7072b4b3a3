/-
Module: Multitape.Proofs.Decision
Purpose: What it is to decide a language. A run decides a word over some letters: it rejects a foreign
  symbol, refuses the wildcard, and else tells whether the word belongs to the language. For a program
  that takes these letters only the last is left to show, by a passage from the situation in which the
  word has been loaded.
Main exports: Situation.initial, Program.Answers, Run.Decides, Program.Takes, start_fresh,
  Takes.exists_run
-/
import Multitape.Proofs.Passage
import Multitape.Proofs.TextbookMachine

namespace Multitape

/-- The situation in which a word has been loaded: it stands on the first tape from the head on, and the
    other tapes are blank. -/
def Situation.initial (program : Program) (word : List Char) : Situation where
  place := program.initial
  tapes := (List.range program.tapeCount).map fun tape =>
    program.tape [] (if tape = 0 then word else [])

/-- From a situation a program comes to an end after no more than a number of rules, and it accepts there
    exactly if a condition holds. -/
def Program.Answers (program : Program) (limit : Nat) (first : Situation) (condition : Prop) : Prop :=
  ∃ count ≤ limit, ∃ last, Passage program count first last ∧ program.Ends last ∧
    ((program.stateAt last.place).accepting = true ↔ condition)

/-- A run is one of a machine that decides a language over some letters. The first symbol that is neither
    a letter nor the wildcard is a reason to reject; without such a symbol, a wildcard is an error; a
    word of letters is accepted exactly if it belongs to the language. -/
structure Run.Decides (run : Run) (letters : List Char) (language : List Char → Prop)
    (word : List Char) : Prop where
  foreign : ∀ before symbol after, word = before ++ symbol :: after →
    (∀ known ∈ before, known ∈ letters ∨ known = wildcard) → symbol ∉ letters → symbol ≠ wildcard →
      run.result = .ok false ∧ run.final.halt? = some (.rejected (.foreignInput symbol))
  refused : (∀ symbol ∈ word, symbol ∈ letters ∨ symbol = wildcard) → wildcard ∈ word →
    run.result = .error (.foreignSymbol wildcard)
  answered : (∀ symbol ∈ word, symbol ∈ letters) →
    ∃ answer, run.result = .ok answer ∧ (answer = true ↔ language word)

/-- The input symbols of a program are some letters, all of them tape symbols, and there is a tape to put
    them on. -/
structure Program.Takes (program : Program) (letters : List Char) : Prop where
  tapes_pos : 0 < program.tapeCount
  running : (program.stateAt program.initial).accepting = false
  wildcard_not_mem : wildcard ∉ program.tapeAlphabet
  mem_input_iff : ∀ symbol, symbol ∈ program.inputAlphabet ↔ symbol ∈ letters
  letters_mem : ∀ symbol ∈ letters, symbol ∈ program.tapeAlphabet

variable {program : Program} {letters word : List Char}

/-! ### Answers -/

namespace Program.Answers

variable {limit count : Nat} {first middle : Situation} {condition : Prop}

/-- An end is an answer. -/
theorem of_ends (ends : program.Ends first)
    (answer : (program.stateAt first.place).accepting = true ↔ condition) :
    program.Answers limit first condition :=
  ⟨0, Nat.zero_le limit, first, .rest first, ends, answer⟩

/-- In a state that does not accept and has no rule the answer is no. -/
theorem of_stuck (running : (program.stateAt first.place).accepting = false)
    (noRule : program.ruleIn? first = none) (refuted : ¬ condition) :
    program.Answers limit first condition :=
  of_ends (Or.inr noRule) (by simp [running, refuted])

/-- In an accepting state the answer is yes. -/
theorem of_accepting (accepting : (program.stateAt first.place).accepting = true)
    (holds : condition) : program.Answers limit first condition :=
  of_ends (Or.inl accepting) (by simp [accepting, holds])

/-- Where a passage leads, there the answer is found. -/
theorem of_passage (passage : Passage program count first middle)
    (answers : program.Answers limit middle condition) :
    program.Answers (limit + count) first condition := by
  obtain ⟨others, bound, last, rest, ends, answer⟩ := answers
  rw [Nat.add_comm]
  exact ⟨count + others, Nat.add_le_add_left bound count, last, passage.trans rest, ends, answer⟩

theorem mono {more : Nat} (answers : program.Answers limit first condition) (bound : limit ≤ more) :
    program.Answers more first condition := by
  obtain ⟨count, within, rest⟩ := answers
  exact ⟨count, Nat.le_trans within bound, rest⟩

theorem congr {other : Prop} (answers : program.Answers limit first condition)
    (same : condition ↔ other) : program.Answers limit first other := by
  rwa [← same]

end Program.Answers

/-! ### Loading a word -/

theorem Program.foreignInput?_eq_some {before after : List Char} {symbol : Char}
    (known : ∀ other ∈ before, other ∈ program.inputAlphabet ∨ other = wildcard)
    (foreign : symbol ∉ program.inputAlphabet) (notWild : symbol ≠ wildcard) :
    program.foreignInput? (before ++ symbol :: after) = some symbol := by
  have skipped : program.foreignInput? before = none := Program.foreignInput?_eq_none_iff.2 known
  have noMember : program.inputAlphabet.contains symbol = false := by
    rw [← Bool.not_eq_true, Alphabet.contains_iff]
    exact foreign
  unfold Program.foreignInput? at skipped ⊢
  simp [List.find?_append, skipped, notWild, noMember]

/-- Among tape symbols and wildcards the first that a tape refuses is the first wildcard. -/
theorem head?_dropWhile_contains {alphabet : Alphabet} (noSymbol : wildcard ∉ alphabet)
    (known : ∀ symbol ∈ word, symbol ∈ alphabet ∨ symbol = wildcard) (mem : wildcard ∈ word) :
    (word.dropWhile alphabet.contains).head? = some wildcard := by
  induction word with
  | nil => simp at mem
  | cons symbol word ih =>
      rcases known symbol List.mem_cons_self with member | rfl
      · have different : wildcard ≠ symbol := fun same => noSymbol (same ▸ member)
        rw [List.dropWhile_cons_of_pos (Alphabet.contains_iff.2 member)]
        exact ih (fun other otherMem => known other (List.mem_cons_of_mem symbol otherMem))
          ((List.mem_cons.1 mem).resolve_left different)
      · have refused : ¬ alphabet.contains wildcard = true := by simpa using noSymbol
        rw [List.dropWhile_cons_of_neg refused]
        rfl

namespace Machine

/-- A fresh machine has fresh tapes, one of them for the input. -/
theorem exists_tapes_ofProgram (tapes : 0 < program.tapeCount) :
    ∃ others, program.tapeCount = others + 1 ∧
      (ofProgram program).tapes = Tape.withBlank program.tapeAlphabet program.blank ::
        List.replicate others (Tape.withBlank program.tapeAlphabet program.blank) := by
  obtain ⟨others, count⟩ := Nat.exists_eq_add_one_of_ne_zero (Nat.ne_of_gt tapes)
  exact ⟨others, count, by rw [ofProgram, count, List.replicate_succ]⟩

/-- The first symbol that the first tape refuses is told, and nothing is run. -/
theorem run_refused (tapes : 0 < program.tapeCount) (known : program.foreignInput? word = none)
    {symbol : Char} (refused : (word.dropWhile program.tapeAlphabet.contains).head? = some symbol)
    (limit : Nat) :
    ∃ run, (ofProgram program).run limit word = some run ∧
      run.result = .error (.foreignSymbol symbol) ∧ run.final.stepCount = 0 := by
  obtain ⟨others, -, fields⟩ := exists_tapes_ofProgram tapes
  let fresh : Tape := Tape.withBlank program.tapeAlphabet program.blank
  have inserted : (fresh.insert word).2 = some symbol := refused
  have seeded : seed (ofProgram program).tapes word =
      ((fresh.insert word).1 :: List.replicate others fresh, some symbol) := by
    rw [fields, seed, ← Prod.eta (fresh.insert word), inserted]
  rw [Machine.run, (StartOutcome.refused known seeded).start_eq]
  exact ⟨_, rfl, rfl, rfl⟩

/-- A word over both alphabets is loaded. -/
theorem start_fresh (tapes : 0 < program.tapeCount)
    (known : ∀ symbol ∈ word, symbol ∈ program.inputAlphabet ∧ symbol ∈ program.tapeAlphabet) :
    ∃ next, (ofProgram program).start word = (next, .ok .advanced) ∧
      next.Stands program 0 (.initial program word) := by
  obtain ⟨others, count, fields⟩ := exists_tapes_ofProgram tapes
  let fresh : Tape := Tape.withBlank program.tapeAlphabet program.blank
  have inserted : fresh.insert word = ({ fresh with ahead := word }, none) :=
    Tape.insert_eq_append fun symbol mem => (known symbol mem).2
  have seeded : seed (ofProgram program).tapes word =
      ({ fresh with ahead := word } :: List.replicate others fresh.pushBlank, none) := by
    rw [fields, seed, inserted]
    simp [fresh]
  have noForeign : program.foreignInput? word = none :=
    foreignInput?_eq_none fun symbol mem => (known symbol mem).1
  refine ⟨_, (StartOutcome.loaded noForeign seeded).start_eq, rfl, rfl, ?_, rfl⟩
  have first : { fresh with ahead := word }.settle = program.tape [] word := rfl
  have other : fresh.pushBlank.settle = program.tape [] [] := rfl
  simp only [Machine.situation, readTapes, Situation.initial, count, List.range_succ_eq_map,
    List.map_cons, List.map_replicate, first, other]
  simp [Function.comp_def, ofProgram]

/-- A machine on which a word has been loaded runs to the end of a passage. -/
theorem run_passage {next : Machine} (started : (ofProgram program).start word = (next, .ok .advanced))
    {taken count limit : Nat} {first last : Situation} (stands : next.Stands program taken first)
    (running : (program.stateAt first.place).accepting = false)
    (passage : Passage program count first last) (ends : program.Ends last) (within : count < limit) :
    ∃ run, (ofProgram program).run limit word = some run ∧
      run.result = .ok (program.stateAt last.place).accepting ∧
      run.final.stepCount = taken + count ∧ run.final.situation = last := by
  obtain ⟨steps, bound, halt, halts, answer, counted, stood⟩ := passage.halts ends running stands
  exact ⟨_, (run_eq_some_iff started).2 ⟨steps, Nat.lt_of_le_of_lt bound within, halt, halts, rfl⟩,
    congrArg Except.ok answer, counted, stood⟩

end Machine

/-! ### Deciding a language -/

/-- Where every symbol is known, none is foreign. -/
theorem Run.Decides.of_known {run : Run} {language : List Char → Prop}
    (known : ∀ symbol ∈ word, symbol ∈ letters ∨ symbol = wildcard)
    (refused : wildcard ∈ word → run.result = .error (.foreignSymbol wildcard))
    (answered : (∀ symbol ∈ word, symbol ∈ letters) →
      ∃ answer, run.result = .ok answer ∧ (answer = true ↔ language word)) :
    run.Decides letters language word where
  foreign := by
    rintro before symbol after rfl - foreign notWild
    exact absurd (known symbol (by simp)) (not_or.2 ⟨foreign, notWild⟩)
  refused := fun _ => refused
  answered := answered

namespace Program.Takes

/-- Every symbol that a program does not take for foreign is a letter or the wildcard. -/
theorem foreignInput?_eq_none_iff (takes : program.Takes letters) :
    program.foreignInput? word = none ↔ ∀ symbol ∈ word, symbol ∈ letters ∨ symbol = wildcard := by
  simp only [Program.foreignInput?_eq_none_iff, takes.mem_input_iff]

/-- Whatever a program makes of words of letters, all other words are decided. -/
theorem decides_of_foreignInput? (takes : program.Takes letters) {symbol : Char}
    (found : program.foreignInput? word = some symbol) (language : List Char → Prop) :
    Run.Decides ⟨[], (Machine.ofProgram program).haltWith (.rejected (.foreignInput symbol)), .ok false⟩
      letters language word where
  foreign := by
    rintro before other after rfl known foreign notWild
    simp only [← takes.mem_input_iff] at known foreign
    obtain rfl := Option.some.inj
      (found.symm.trans (Program.foreignInput?_eq_some known foreign notWild))
    exact ⟨rfl, rfl⟩
  refused := by
    intro known
    rw [takes.foreignInput?_eq_none_iff.2 known] at found
    cases found
  answered := by
    intro known
    rw [takes.foreignInput?_eq_none_iff.2 fun other mem => Or.inl (known other mem)] at found
    cases found

/-- A program that answers for every word of letters decides its language on every word, within one
    step more than the rules that it takes. -/
theorem exists_run {language : List Char → Prop} {bound : List Char → Nat}
    (takes : program.Takes letters)
    (answers : ∀ word, (∀ symbol ∈ word, symbol ∈ letters) →
      program.Answers (bound word) (.initial program word) (language word)) (word : List Char) :
    ∃ run, (Machine.ofProgram program).run (bound word + 1) word = some run ∧
      run.final.stepCount ≤ bound word ∧ run.Decides letters language word := by
  cases found : program.foreignInput? word with
  | some symbol =>
      have rejected : (Machine.ofProgram program).run (bound word + 1) word =
          some ⟨[], (Machine.ofProgram program).haltWith (.rejected (.foreignInput symbol)),
            .ok false⟩ := by
        rw [Machine.run, (Machine.StartOutcome.foreign found).start_eq]
        rfl
      exact ⟨_, rejected, Nat.zero_le _, takes.decides_of_foreignInput? found language⟩
  | none =>
      have known := takes.foreignInput?_eq_none_iff.1 found
      -- A wildcard is not foreign, but it is no tape symbol either, so the first tape refuses it.
      by_cases wild : wildcard ∈ word
      · have tapeSymbols : ∀ symbol ∈ word, symbol ∈ program.tapeAlphabet ∨ symbol = wildcard :=
          fun symbol mem => (known symbol mem).imp_left (takes.letters_mem symbol)
        have refused := head?_dropWhile_contains takes.wildcard_not_mem tapeSymbols wild
        obtain ⟨run, done, result, counted⟩ :=
          Machine.run_refused takes.tapes_pos found refused (bound word + 1)
        refine ⟨run, done, by simp [counted], .of_known known (fun _ => result) fun onlyLetters => ?_⟩
        exact absurd (takes.letters_mem wildcard (onlyLetters wildcard wild)) takes.wildcard_not_mem
      · have onlyLetters : ∀ symbol ∈ word, symbol ∈ letters := fun symbol mem =>
          (known symbol mem).resolve_right fun same => wild (same ▸ mem)
        obtain ⟨count, within, last, passage, ends, answer⟩ := answers word onlyLetters
        obtain ⟨next, started, stands⟩ := Machine.start_fresh takes.tapes_pos fun symbol mem =>
          ⟨(takes.mem_input_iff symbol).2 (onlyLetters symbol mem),
            takes.letters_mem symbol (onlyLetters symbol mem)⟩
        obtain ⟨run, done, result, counted, -⟩ := Machine.run_passage started stands takes.running
          passage ends (Nat.lt_succ_of_le within)
        exact ⟨run, done, by simpa [counted] using within,
          .of_known known (fun mem => absurd mem wild) fun _ => ⟨_, result, answer⟩⟩

end Program.Takes

end Multitape
