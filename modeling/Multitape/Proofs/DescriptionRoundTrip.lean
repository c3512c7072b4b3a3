/-
Module: Multitape.Proofs.DescriptionRoundTrip
Purpose: The description of a table is read back as that table: with its states at their places, its
  rules in their order and under their numbers, and without its name.
Main exports: Describable, written_of_mem_printLines, rule?_ruleLine, declared?_print, parse_print
-/
import Multitape.Proofs.DescriptionFormat
import Multitape.Proofs.Redeclaration
import Multitape.Proofs.WrittenLines

namespace Multitape.Description

open Layout

/-- A table that a description can tell. Symbols and names have to be words, no section may be
    empty, the text may not start with a comment or with white space, and no rule may start like a
    comment. -/
structure Describable (program : Program) : Prop where
  input_nonempty : program.inputAlphabet.toList ≠ []
  accepting_nonempty : program.acceptingStates ≠ []
  input_characters : ∀ symbol ∈ program.inputAlphabet.toList, isWordCharacter symbol = true
  tape_characters : ∀ symbol ∈ program.tapeAlphabet.toList, isWordCharacter symbol = true
  names_nonempty : ∀ state ∈ program.states, state.name.toList ≠ []
  names_characters : ∀ state ∈ program.states, ∀ c ∈ state.name.toList, isWordCharacter c = true
  first_name : ∀ state ∈ program.states.head?, ∀ c ∈ state.name.toList.head?,
    c ≠ commentMark ∧ Text.isWhiteSpace c = false
  sources : ∀ state ∈ program.states, state.transitions ≠ [] →
    state.name.toList.head? ≠ some commentMark
  tapes_bound : 3 * program.tapeCount + 2 < Text.wordBound

/-! ### Digits -/

theorem isWhiteSpace_of_isDigit {c : Char} (digit : c.isDigit = true) :
    Text.isWhiteSpace c = false := by
  simp only [Char.isDigit, Bool.and_eq_true, decide_eq_true_eq, ge_iff_le,
    UInt32.le_iff_toNat_le] at digit
  have range : 48 ≤ c.toNat ∧ c.toNat ≤ 57 := digit
  simp only [Text.isWhiteSpace, Bool.or_eq_false_iff, Bool.and_eq_false_iff,
    decide_eq_false_iff_not, beq_eq_false_iff_ne]
  omega

theorem isDigit_of_mem_toDigits {number : Nat} {c : Char} (mem : c ∈ Nat.toDigits 10 number) :
    c.isDigit = true :=
  Nat.isDigit_of_mem_toDigits (by decide) (by decide) mem

/-- A number is read back from its digits. -/
theorem numeral_toDigits (number : Nat) : Text.numeral (Nat.toDigits 10 number) = number :=
  Nat.ofDigitChars_ten_toDigits

/-! ### Rows -/

theorem written_single {word : List Char} (nonempty : word ≠ [])
    (characters : ∀ c ∈ word, isWordCharacter c = true) : Written [word] where
  nonempty := List.cons_ne_nil word []
  words_nonempty := by
    intro other mem
    rw [List.mem_singleton.1 mem]
    exact nonempty
  characters := by
    intro other mem
    rw [List.mem_singleton.1 mem]
    exact characters

theorem written_symbols {symbols : List Char} (nonempty : symbols ≠ [])
    (characters : ∀ c ∈ symbols, isWordCharacter c = true) : Written (symbols.map ([·])) where
  nonempty := by simpa using nonempty
  words_nonempty := by simp
  characters := by simpa using characters

section Rows

variable {program : Program}

theorem Describable.written_names (describable : Describable program) {states : List State}
    (nonempty : states ≠ []) (subset : ∀ state ∈ states, state ∈ program.states) :
    Written (states.map (·.name.toList)) where
  nonempty := by simpa using nonempty
  words_nonempty := by
    intro word mem
    obtain ⟨state, stateMem, rfl⟩ := List.mem_map.1 mem
    exact describable.names_nonempty state (subset state stateMem)
  characters := by
    intro word mem
    obtain ⟨state, stateMem, rfl⟩ := List.mem_map.1 mem
    exact describable.names_characters state (subset state stateMem)

theorem mem_orderedRules {transition : Transition} :
    transition ∈ orderedRules program ↔ transition ∈ program.transitions :=
  List.mem_mergeSort

theorem fits_of_mem_orderedRules (wellFormed : program.WellFormed) {transition : Transition}
    (mem : transition ∈ orderedRules program) : program.Fits transition :=
  wellFormed.fits (wellFormed.stateAt_source (mem_orderedRules.1 mem)).2

theorem written_ruleLine (wellFormed : program.WellFormed) (describable : Describable program)
    {transition : Transition} (mem : transition ∈ orderedRules program) :
    Written (ruleLine program transition) := by
  have fits := fits_of_mem_orderedRules wellFormed mem
  have source := (wellFormed.stateAt_source (mem_orderedRules.1 mem)).1
  have target := Program.stateAt_mem fits.target_lt
  have symbol : ∀ c, isWordCharacter c = true → [c] ≠ [] ∧ ∀ d ∈ [c], isWordCharacter d = true := by
    intro c character
    refine ⟨List.cons_ne_nil c [], ?_⟩
    intro d mem
    rw [List.mem_singleton.1 mem]
    exact character
  have words : ∀ word ∈ ruleLine program transition,
      word ≠ [] ∧ ∀ c ∈ word, isWordCharacter c = true := by
    intro word mem
    simp only [ruleLine, List.mem_append, List.mem_cons, List.mem_map, or_assoc] at mem
    rcases mem with rfl | ⟨c, read, rfl⟩ | rfl | ⟨c, write, rfl⟩ | ⟨direction, -, rfl⟩
    · exact ⟨describable.names_nonempty _ source, describable.names_characters _ source⟩
    · apply symbol
      rcases fits.read_mem c read with rfl | known
      · rfl
      · exact describable.tape_characters c known
    · exact ⟨describable.names_nonempty _ target, describable.names_characters _ target⟩
    · apply symbol
      exact describable.tape_characters c (fits.write_mem c write)
    · apply symbol
      cases direction <;> rfl
  exact ⟨List.cons_ne_nil _ _, fun word mem => (words word mem).1,
    fun word mem => (words word mem).2⟩

/-- Every line of the description can be written. -/
theorem written_of_mem_printLines (wellFormed : program.WellFormed)
    (describable : Describable program) :
    ∀ row ∈ printLines program, Written row := by
  have states : program.states ≠ [] :=
    List.ne_nil_of_length_pos (Nat.zero_lt_of_lt wellFormed.initial_lt)
  have initial := Program.stateAt_mem wellFormed.initial_lt
  have tapes : program.tapeAlphabet.toList ≠ [] := List.ne_nil_of_mem wellFormed.blank_mem
  intro row mem
  simp only [printLines, List.mem_append, List.mem_cons, List.not_mem_nil, or_false,
    List.mem_map] at mem
  rcases mem with (rfl | rfl | rfl | rfl | rfl | rfl | rfl) | ⟨transition, mem, rfl⟩
  · exact describable.written_names states fun _ mem => mem
  · exact written_symbols describable.input_nonempty describable.input_characters
  · exact written_symbols tapes describable.tape_characters
  · exact written_single (describable.names_nonempty _ initial)
      (describable.names_characters _ initial)
  · apply written_single (List.cons_ne_nil program.blank [])
    intro c mem
    rw [List.mem_singleton.1 mem]
    exact describable.tape_characters _ wellFormed.blank_mem
  · apply describable.written_names describable.accepting_nonempty
    intro state mem
    exact (List.mem_filter.1 mem).1
  · apply written_single Nat.toDigits_ne_nil
    intro c mem
    exact isWordCharacter_of_isDigit (isDigit_of_mem_toDigits mem)
  · exact written_ruleLine wellFormed describable mem

/-- A description ends with a digit or with the letter of a direction, so trimming takes nothing of
    it. -/
theorem lines_trim_print (wellFormed : program.WellFormed) (describable : Describable program) :
    lines (Text.trim (print program)) = printLines program := by
  apply lines_trim_writeLines (written_of_mem_printLines wellFormed describable)
  · rintro row ⟨⟩ word wordMem c charMem
    rw [List.head?_map] at wordMem
    obtain ⟨state, stateMem, rfl⟩ := Option.map_eq_some_iff.1 wordMem
    exact (describable.first_name state stateMem c charMem).2
  · intro row rowMem word wordMem c charMem
    have split : printLines program = (printLines program).take 6 ++
        [Nat.toDigits 10 program.tapeCount] :: (orderedRules program).map (ruleLine program) := rfl
    rw [split, List.getLast?_append_cons] at rowMem
    rcases List.mem_cons.1 (List.mem_of_getLast? rowMem) with rfl | mem
    · obtain rfl : Nat.toDigits 10 program.tapeCount = word := Option.some.inj wordMem
      exact isWhiteSpace_of_isDigit (isDigit_of_mem_toDigits (List.mem_of_getLast? charMem))
    · obtain ⟨transition, transitionMem, rfl⟩ := List.mem_map.1 mem
      have fits := fits_of_mem_orderedRules wellFormed transitionMem
      have moves : transition.directions.map ([Direction.letter ·]) ≠ [] := by
        apply List.ne_nil_of_length_pos
        rw [List.length_map, fits.directions_length]
        exact wellFormed.tapes_pos
      rw [ruleLine, List.getLast?_append_of_ne_nil _ moves] at wordMem
      obtain ⟨direction, -, rfl⟩ := List.mem_map.1 (List.mem_of_getLast? wordMem)
      obtain rfl : direction.letter = c := Option.some.inj charMem
      cases direction <;> rfl

/-! ### Reading rules -/

theorem mapM_map_some {α β γ : Type} {f : β → Option γ} {g : α → β} {h : α → γ} {list : List α}
    (each : ∀ a ∈ list, f (g a) = some (h a)) : (list.map g).mapM f = some (list.map h) := by
  induction list with
  | nil => rfl
  | cons a list ih =>
      have others := ih fun b mem => each b (List.mem_cons_of_mem a mem)
      rw [List.map_cons, List.mapM_cons, each a List.mem_cons_self, others]
      rfl

theorem mapM_symbol?_map (symbols : List Char) :
    (symbols.map ([·])).mapM symbol? = some symbols := by
  have found : (symbols.map ([·])).mapM symbol? = some (symbols.map id) :=
    mapM_map_some fun _ _ => rfl
  rw [found, List.map_id]

theorem mapM_direction?_map (directions : List Direction) :
    (directions.map ([Direction.letter ·])).mapM direction? = some directions := by
  have found : (directions.map ([Direction.letter ·])).mapM direction? = some (directions.map id) :=
    mapM_map_some fun direction _ => Direction.ofLetter?_letter direction
  rw [found, List.map_id]

/-- The line of a rule is read as the declaration of that rule. -/
theorem rule?_ruleLine {transition : Transition} (fits : program.Fits transition) :
    rule? program.tapeCount (ruleLine program transition) =
      some (program.ruleDeclaration transition) := by
  have reads : (transition.read.map fun c => [c]).length = program.tapeCount := by
    rw [List.length_map, fits.read_length]
  have writes : (transition.write.map fun c => [c]).length = program.tapeCount := by
    rw [List.length_map, fits.write_length]
  have length : (ruleLine program transition).length = 3 * program.tapeCount + 2 := by
    simp [ruleLine, fits.read_length, fits.write_length, fits.directions_length]
    omega
  have front : ((ruleLine program transition).drop 1).take program.tapeCount =
      transition.read.map fun c => [c] := by
    rw [← reads, ruleLine]
    simp
  have back : (ruleLine program transition).drop (program.tapeCount + 1) =
      stateWord program transition.target :: ((transition.write.map fun c => [c]) ++
        transition.directions.map fun direction => [direction.letter]) := by
    rw [← reads, ruleLine]
    simp
  have middle : (ruleLine program transition)[program.tapeCount + 1]? =
      some (stateWord program transition.target) := by
    rw [← List.head?_drop, back, List.head?_cons]
  have written :
      ((ruleLine program transition).drop (program.tapeCount + 2)).take program.tapeCount =
      transition.write.map fun c => [c] := by
    rw [show program.tapeCount + 2 = program.tapeCount + 1 + 1 from rfl, ← List.drop_drop, back]
    rw [← writes]
    simp
  have moved : (ruleLine program transition).drop (2 * program.tapeCount + 2) =
      transition.directions.map fun direction => [direction.letter] := by
    rw [show 2 * program.tapeCount + 2 = program.tapeCount + 1 + (1 + program.tapeCount) by omega,
      ← List.drop_drop, back, Nat.add_comm 1, List.drop_succ_cons]
    exact List.drop_left' writes
  rw [rule?, if_pos length, front, middle, written, moved, mapM_symbol?_map, mapM_symbol?_map,
    mapM_direction?_map]
  simp [ruleLine, Program.ruleDeclaration, stateWord]

/-- No line after the header is a comment. -/
theorem isComment_ruleLine (wellFormed : program.WellFormed) (describable : Describable program)
    {transition : Transition} (mem : transition ∈ orderedRules program) :
    isComment (ruleLine program transition) = false := by
  obtain ⟨source, rules⟩ := wellFormed.stateAt_source (mem_orderedRules.1 mem)
  have other := describable.sources _ source (List.ne_nil_of_mem rules)
  simpa [isComment, ruleLine, stateWord] using other

theorem isComment_toDigits (number : Nat) : isComment [Nat.toDigits 10 number] = false := by
  obtain ⟨c, rest, digits⟩ :=
    List.exists_cons_of_ne_nil (Nat.toDigits_ne_nil (n := number) (b := 10))
  have first : c ∈ Nat.toDigits 10 number := by
    rw [digits]
    exact List.mem_cons_self
  have digit : c.isDigit = true := isDigit_of_mem_toDigits first
  have other : c ≠ commentMark := by
    intro same
    subst same
    cases digit
  simpa [isComment, digits] using other

/-- The lines after the header are read as the number of tapes and the rules. -/
theorem body?_print (wellFormed : program.WellFormed) (describable : Describable program) :
    body? (([Nat.toDigits 10 program.tapeCount] ::
        (orderedRules program).map (ruleLine program)).filter (!isComment ·)) =
      some (program.tapeCount, (orderedRules program).map program.ruleDeclaration) := by
  have rules : ((orderedRules program).map (ruleLine program)).filter (!isComment ·) =
      (orderedRules program).map (ruleLine program) := by
    rw [List.filter_eq_self]
    intro row mem
    obtain ⟨transition, transitionMem, rfl⟩ := List.mem_map.1 mem
    rw [isComment_ruleLine wellFormed describable transitionMem]
    rfl
  have digits : (Nat.toDigits 10 program.tapeCount).all Char.isDigit = true := by
    rw [List.all_eq_true]
    intro c mem
    exact isDigit_of_mem_toDigits mem
  have bound : program.tapeCount < Text.wordBound := by
    have limit := describable.tapes_bound
    omega
  have read : ((orderedRules program).map (ruleLine program)).mapM (rule? program.tapeCount) =
      some ((orderedRules program).map program.ruleDeclaration) :=
    mapM_map_some fun _ mem => rule?_ruleLine (fits_of_mem_orderedRules wellFormed mem)
  rw [List.filter_cons_of_pos (by simp [isComment_toDigits]), rules]
  simp only [body?, digits, if_true, numeral_toDigits, read]
  rw [if_pos ⟨wellFormed.tapes_pos, bound⟩]
  rfl

end Rows

/-! ### The round trip -/

/-- The description of a table declares what the table declares. -/
theorem declared?_print {program : Program} (wellFormed : program.WellFormed)
    (describable : Describable program) :
    declared? (Text.trim (print program)) = some program.declarations := by
  have visible : isComment (program.states.map (·.name.toList)) = false := by
    cases states : program.states with
    | nil => rfl
    | cons state others =>
        cases characters : state.name.toList with
        | nil => simp [isComment, characters]
        | cons c rest =>
            have first :=
              describable.first_name state (by rw [states]; rfl) c (by rw [characters]; rfl)
            simp [isComment, characters, first.1]
  have names : ∀ states : List State,
      (states.map (·.name.toList)).map String.ofList = states.map State.name := by
    intro states
    rw [List.map_map]
    apply List.map_congr_left
    intro state _
    exact String.ofList_toList
  have header : (printLines program).dropWhile isComment = printLines program :=
    List.dropWhile_cons_of_neg (by simp [visible])
  unfold declared?
  rw [lines_trim_print wellFormed describable, header]
  unfold printLines
  simp only [List.cons_append, List.nil_append, mapM_symbol?_map, Option.bind_eq_bind,
    Option.bind_some, symbol?]
  rw [body?_print wellFormed describable]
  rw [Option.bind_some, Alphabet.ofList_toList, Alphabet.ofList_toList, names, names, stateWord,
    String.ofList_toList]
  rfl

/-- The declarations of a machine whose words could be taken for something else: for a comment, for
    the number of tapes, for the wildcard or for a direction. -/
def disguised : Declarations where
  states := ["7", ".", "#"]
  inputAlphabet := Alphabet.ofList ['#', 'L']
  tapeAlphabet := Alphabet.ofList ['#', 'L', '1']
  blank := '#'
  tapeCount := 2
  initial := some "7"
  accepting := ["#"]
  rules :=
    [ ⟨"7", ['L', '.'], ".", ['#', '1'], [.right, .stay]⟩,
      ⟨".", ['#', '1'], "#", ['L', 'L'], [.left, .right]⟩ ]

/-- A built table that a description can tell is read back from its description, up to its name. -/
theorem parse_print {declarations : Declarations} {program : Program}
    (built : declarations.build = .ok program) (describable : Describable program) :
    parse (String.ofList (print program)) = .ok (program.withName "untitled") := by
  have layout := declared?_print (wellFormed_of_build built) describable
  have agrees := readDeclarations_agrees (sealed_trim (print program))
  rw [layout] at agrees
  unfold parse parseChars
  rw [String.toList_ofList]
  dsimp only
  rw [agrees.eq_ok]
  dsimp only
  rw [build_declarations built]
  rfl

theorem parse_print_disguised :
    disguised.build = .ok disguised.program ∧ Describable disguised.program ∧
      parse (String.ofList (print disguised.program)) =
        .ok (disguised.program.withName "untitled") := by
  have built : disguised.build = .ok disguised.program := rfl
  have inputs : disguised.program.inputAlphabet.toList.all isWordCharacter = true := rfl
  have tapes : disguised.program.tapeAlphabet.toList.all isWordCharacter = true := rfl
  have names : (disguised.program.states.all
      fun state => state.name.toList.all isWordCharacter) = true := rfl
  have first : ∀ state ∈ disguised.program.states.head?, state.name.toList.head? = some '7' := by
    rintro state ⟨⟩
    rfl
  have describable : Describable disguised.program := {
    input_nonempty := by decide
    accepting_nonempty := by decide
    input_characters := List.all_eq_true.1 inputs
    tape_characters := List.all_eq_true.1 tapes
    names_nonempty := by decide
    names_characters := fun state mem => List.all_eq_true.1 (List.all_eq_true.1 names state mem)
    first_name := by
      intro state mem c charMem
      rw [first state mem] at charMem
      cases charMem
      exact ⟨by decide, rfl⟩
    sources := by decide
    tapes_bound := by decide }
  exact ⟨built, describable, parse_print built describable⟩

end Multitape.Description
