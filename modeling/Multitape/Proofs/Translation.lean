/-
Module: Multitape.Proofs.Translation
Purpose: Symbols and state names are replaced by others, different ones by different ones. What that
  makes of alphabets, tapes, rules and states is defined here, and every operation on a tape or on a
  row of tapes gives the translated result on translated tapes. Only the wildcard has to stay what it is,
  since rules that read it mean every symbol.
Main exports: Translation, Translation.identity, Translation.alphabet, Translation.tape, Translation.state,
  insert_tape, execute_transition, ruleFor?_state, seed_tapes, Translation.rejection, Translation.answer
-/
import Mathlib.Data.List.Basic
import Multitape.Proofs.Lockstep
import Multitape.Proofs.TapeByTape

namespace Multitape

/-- New symbols and new state names for the old ones. No two become one, and the wildcard stays. -/
structure Translation where
  symbol : Char → Char
  name : String → String
  symbol_injective : Function.Injective symbol
  symbol_wildcard : symbol wildcard = wildcard
  name_injective : Function.Injective name

namespace Translation

/-- Every symbol and every name stays what it is. -/
def identity : Translation where
  symbol := id
  name := id
  symbol_injective := Function.injective_id
  symbol_wildcard := rfl
  name_injective := Function.injective_id

variable (translation : Translation)

/-! ### Symbols -/

/-- Each symbol of a row is translated. -/
def word (symbols : List Char) : List Char := symbols.map translation.symbol

/-- The alphabet of the translated symbols. -/
def alphabet (alphabet : Alphabet) : Alphabet := Alphabet.ofList (translation.word alphabet.toList)

@[simp] theorem symbol_eq_wildcard_iff {symbol : Char} :
    translation.symbol symbol = wildcard ↔ symbol = wildcard := by
  have fixed := translation.symbol_injective.eq_iff (a := symbol) (b := wildcard)
  rwa [translation.symbol_wildcard] at fixed

@[simp] theorem symbol_mem_alphabet {alphabet : Alphabet} {symbol : Char} :
    translation.symbol symbol ∈ translation.alphabet alphabet ↔ symbol ∈ alphabet := by
  unfold Translation.alphabet word
  rw [Alphabet.mem_ofList, List.mem_map_of_injective translation.symbol_injective]
  rfl

@[simp] theorem contains_alphabet (alphabet : Alphabet) (symbol : Char) :
    (translation.alphabet alphabet).contains (translation.symbol symbol) = alphabet.contains symbol := by
  rw [Bool.eq_iff_iff, Alphabet.contains_iff, Alphabet.contains_iff]
  exact translation.symbol_mem_alphabet

/-- What is asked of translated symbols is asked of the symbols. -/
theorem contains_alphabet_comp (alphabet : Alphabet) :
    (translation.alphabet alphabet).contains ∘ translation.symbol = alphabet.contains :=
  funext (translation.contains_alphabet alphabet)

/-! ### Tapes -/

/-- A tape with translated cells, blank and alphabet. Its head stays where it is. -/
def tape (tape : Tape) : Tape where
  behind := translation.word tape.behind
  ahead := translation.word tape.ahead
  offset := tape.offset
  alphabet := translation.alphabet tape.alphabet
  blank := translation.symbol tape.blank

@[simp] theorem cells_tape (tape : Tape) : (translation.tape tape).cells = translation.word tape.cells := by
  simp [Tape.cells, Translation.tape, word]

@[simp] theorem head_tape (tape : Tape) : (translation.tape tape).head = tape.head :=
  List.length_map translation.symbol

@[simp] theorem peek_tape (tape : Tape) : (translation.tape tape).peek = translation.symbol tape.peek := by
  unfold Tape.peek Translation.tape word
  cases tape.ahead <;> rfl

@[simp] theorem settle_tape (tape : Tape) :
    (translation.tape tape).settle = translation.tape tape.settle := by
  obtain ⟨behind, ahead, offset, alphabet, blank⟩ := tape
  cases ahead <;> rfl

@[simp] theorem write_tape (tape : Tape) (symbol : Char) :
    (translation.tape tape).write (translation.symbol symbol) = translation.tape (tape.write symbol) := by
  obtain ⟨behind, ahead, offset, alphabet, blank⟩ := tape
  cases ahead <;> rfl

@[simp] theorem shift_tape (tape : Tape) (direction : Direction) :
    (translation.tape tape).shift direction = translation.tape (tape.shift direction) := by
  obtain ⟨behind, ahead, offset, alphabet, blank⟩ := tape
  cases direction with
  | left => cases behind <;> rfl
  | right =>
      cases ahead with
      | nil => rfl
      | cons cell ahead => cases ahead <;> rfl
  | stay => rfl

@[simp] theorem pushBlank_tape (tape : Tape) :
    (translation.tape tape).pushBlank = translation.tape tape.pushBlank := by
  simp [Tape.pushBlank, Translation.tape, word]

/-- Symbols are refused alike. -/
theorem insert_tape (tape : Tape) (symbols : List Char) :
    (translation.tape tape).insert (translation.word symbols) =
      (translation.tape (tape.insert symbols).1, (tape.insert symbols).2.map translation.symbol) := by
  simp [Tape.insert, Translation.tape, word, List.takeWhile_map, List.dropWhile_map,
    contains_alphabet_comp]

@[simp] theorem tape_withBlank (alphabet : Alphabet) (blank : Char) :
    translation.tape (Tape.withBlank alphabet blank) =
      Tape.withBlank (translation.alphabet alphabet) (translation.symbol blank) := rfl

/-! ### Rows of tapes -/

theorem writeAll_tapes (tapes : List Tape) (symbols : List Char) :
    Transition.writeAll (tapes.map translation.tape) (translation.word symbols) =
      (Transition.writeAll tapes symbols).map translation.tape := by
  rw [Transition.writeAll_eq_actAll, Transition.writeAll_eq_actAll, word, Transition.actAll_map]
  exact (Transition.map_actAll (fun tape symbol => (translation.write_tape tape symbol).symm) _ _).symm

theorem shiftAll_tapes (tapes : List Tape) (directions : List Direction) :
    Transition.shiftAll (tapes.map translation.tape) directions =
      (Transition.shiftAll tapes directions).map translation.tape := by
  rw [Transition.shiftAll_eq_actAll, Transition.shiftAll_eq_actAll]
  exact (Transition.map_actAll (fun tape turn => (translation.shift_tape tape turn).symm) _ _).symm

/-- An input is put on the tapes alike, and refused at the same symbol. -/
theorem seed_tapes (tapes : List Tape) (symbols : List Char) :
    Machine.seed (tapes.map translation.tape) (translation.word symbols) =
      ((Machine.seed tapes symbols).1.map translation.tape,
        (Machine.seed tapes symbols).2.map translation.symbol) := by
  cases tapes with
  | nil => rfl
  | cons first others =>
      rw [List.map_cons, Machine.seed, Machine.seed, insert_tape]
      rcases first.insert symbols with ⟨tape, _ | symbol⟩
      · simp
      · rfl

/-! ### Rules and states -/

/-- A rule with translated symbols. Its states have moved to other places. -/
def transition (move : Nat → Nat) (transition : Transition) : Transition where
  id := transition.id
  source := move transition.source
  target := move transition.target
  read := translation.word transition.read
  write := translation.word transition.write
  directions := transition.directions

/-- A translated state with translated rules. -/
def state (move : Nat → Nat) (state : State) : State where
  name := translation.name state.name
  initial := state.initial
  accepting := state.accepting
  transitions := state.transitions.map (translation.transition move)

/-- A translated rule reads the translated symbols. -/
theorem accepts_word (entries symbols : List Char) :
    Transition.accepts (translation.word entries) (translation.word symbols) =
      Transition.accepts entries symbols := by
  induction entries generalizing symbols with
  | nil => cases symbols <;> rfl
  | cons entry entries ih =>
      cases symbols with
      | nil => rfl
      | cons symbol symbols =>
          have wild : (translation.symbol entry == wildcard) = (entry == wildcard) := by
            simp [Bool.beq_eq_decide_eq]
          have same : (translation.symbol entry == translation.symbol symbol) = (entry == symbol) := by
            simp [Bool.beq_eq_decide_eq, translation.symbol_injective.eq_iff]
          have others := ih symbols
          unfold word at others ⊢
          rw [List.map_cons, List.map_cons, Transition.accepts, Transition.accepts, wild, same, others]

/-- A translated state takes the translated rule. -/
theorem ruleFor?_state (move : Nat → Nat) (state : State) (symbols : List Char) :
    (translation.state move state).ruleFor? (translation.word symbols) =
      (state.ruleFor? symbols).map (translation.transition move) := by
  unfold State.ruleFor? Translation.state
  rw [List.find?_map]
  congr 2
  funext transition
  exact translation.accepts_word transition.read symbols

/-- A translated rule does to translated tapes what the rule does to the tapes. -/
theorem execute_transition (move : Nat → Nat) (transition : Transition) (tapes : List Tape) :
    (translation.transition move transition).execute (tapes.map translation.tape) =
      (transition.execute tapes).map translation.tape := by
  rw [Transition.execute, Transition.execute, ← shiftAll_tapes, ← writeAll_tapes]
  rfl

/-! ### Answers -/

/-- A rejection with its symbols and its state translated. -/
def rejection : Rejection → Rejection
  | .foreignInput symbol => .foreignInput (translation.symbol symbol)
  | .stuck state symbols => .stuck (translation.name state) (translation.word symbols)

/-- What a start answers, translated. The only error that it tells is about a symbol. -/
def answer : Except Error Step → Except Error Step
  | .ok step => .ok (step.retell translation.rejection)
  | .error (.foreignSymbol symbol) => .error (.foreignSymbol (translation.symbol symbol))
  | .error error => .error error

/-! ### No translation -/

@[simp] theorem word_identity (symbols : List Char) : identity.word symbols = symbols :=
  List.map_id symbols

@[simp] theorem alphabet_identity (alphabet : Alphabet) : identity.alphabet alphabet = alphabet := by
  rw [Translation.alphabet, word_identity, Alphabet.ofList_toList]

@[simp] theorem tape_identity : identity.tape = id := by
  funext tape
  simp only [Translation.tape, word_identity, alphabet_identity]
  rfl

@[simp] theorem rejection_identity : identity.rejection = id := by
  funext rejection
  cases rejection <;> simp only [Translation.rejection, word_identity] <;> rfl

@[simp] theorem answer_identity (result : Except Error Step) : identity.answer result = result := by
  cases result with
  | ok step => simp [answer]
  | error error => cases error <;> rfl

end Translation

end Multitape
