/-
Module: Multitape.Proofs.MalformedRules
Purpose: Which line of a description is blamed if some line after its header holds no rule.  Lines are read in
  their order and the words of a line from its front, and the first that is malformed ends the reading, before
  anything is known of what the declarations mean together.
Main exports: exists_first_not, checkEntry, forget_readRule, readRule_malformed, readRules_malformed,
  first_malformed_line_is_blamed
-/
import Multitape.Proofs.PlacedLines

namespace Multitape.Description

open Layout

/-! ### First offenders -/

/-- Where some member of a list is not good, there is a first one that is not. -/
theorem exists_first_not {α : Type} {Good : α → Prop} {list : List α} (bad : ∃ a ∈ list, ¬ Good a) :
    ∃ before a after, list = before ++ a :: after ∧ (∀ earlier ∈ before, Good earlier) ∧ ¬ Good a := by
  induction list with
  | nil =>
      obtain ⟨a, mem, -⟩ := bad
      cases mem
  | cons first list ih =>
      by_cases good : Good first
      · have further : ∃ a ∈ list, ¬ Good a := by
          obtain ⟨a, mem, refused⟩ := bad
          rcases List.mem_cons.1 mem with rfl | mem
          · exact absurd good refused
          · exact ⟨a, mem, refused⟩
        obtain ⟨before, a, after, rfl, earlier, refused⟩ := ih further
        exact ⟨first :: before, a, after, rfl, List.forall_mem_cons.2 ⟨good, earlier⟩, refused⟩
      · exact ⟨[], first, list, rfl, by simp, good⟩

/-- A row of checks fails as its first check does that fails. -/
theorem forM_eq_error {ε α : Type} {check : α → Except ε Unit} {before after : List α} {a : α} {error : ε}
    (passed : ∀ earlier ∈ before, check earlier = .ok ()) (failed : check a = .error error) :
    forM (before ++ a :: after) check = .error error := by
  induction before with
  | nil =>
      rw [List.nil_append, List.forM_cons, failed]
      rfl
  | cons first before ih =>
      obtain ⟨passes, others⟩ := List.forall_mem_cons.1 passed
      rw [List.cons_append, List.forM_cons, passes]
      exact ih others

theorem forM_eq_ok {ε α : Type} {check : α → Except ε Unit} {list : List α}
    (passed : ∀ a ∈ list, check a = .ok ()) : forM list check = .ok () := by
  induction list with
  | nil => rfl
  | cons first list ih =>
      obtain ⟨passes, others⟩ := List.forall_mem_cons.1 passed
      rw [List.forM_cons, passes]
      exact ih others

/-! ### Entries of a rule -/

/-- What is read, forgotten. -/
def forget {ε α : Type} (result : Except ε α) : Except ε Unit := result.map fun _ => ()

/-- To forget what a row of items is read as is to read each of them and forget it. -/
theorem forget_mapM {ε α β : Type} (read : α → Except ε β) (list : List α) :
    forget (list.mapM read) = forM list fun a => forget (read a) := by
  induction list with
  | nil => rfl
  | cons first list ih =>
      rw [List.mapM_cons, List.forM_cons, ← ih]
      cases read first with
      | error error => rfl
      | ok value => cases list.mapM read <;> rfl

/-- Read an entry of a rule as what it has to be. -/
def checkEntry (entry : Entry × Token) : Except Blame Unit :=
  match entry.1 with
  | .symbol => forget entry.2.symbol
  | .direction => forget entry.2.direction

theorem ofLetter?_isSome_iff {letter : Char} :
    (Direction.ofLetter? letter).isSome = true ↔ letter = 'L' ∨ letter = 'R' ∨ letter = 'S' := by
  constructor
  · intro known
    unfold Direction.ofLetter? at known
    split at known
    · exact .inl rfl
    · exact .inr (.inl rfl)
    · exact .inr (.inr rfl)
    · cases known
  · rintro (rfl | rfl | rfl) <;> rfl

/-- A symbol passes if it is one character. -/
theorem checkEntry_symbol (token : Token) :
    checkEntry (.symbol, token) =
      if token.word.length = 1 then .ok () else .error (token.blame (.severalSymbols token.word)) := by
  obtain ⟨position, word⟩ := token
  rcases word with _ | ⟨symbol, _ | ⟨second, others⟩⟩ <;> rfl

/-- A direction passes if it is one of the three letters. -/
theorem checkEntry_direction (token : Token) :
    checkEntry (.direction, token) =
      if token.word = ['L'] ∨ token.word = ['R'] ∨ token.word = ['S'] then .ok ()
      else .error (token.blame (.unsupportedDirection token.word)) := by
  obtain ⟨position, word⟩ := token
  rcases word with _ | ⟨letter, _ | ⟨second, others⟩⟩
  · rfl
  · have known := @ofLetter?_isSome_iff letter
    simp only [checkEntry, Token.direction, List.cons.injEq, and_true]
    cases found : Direction.ofLetter? letter with
    | none =>
        rw [found] at known
        rw [if_neg (by simpa using known)]
        rfl
    | some direction =>
        rw [found] at known
        rw [if_pos (by simpa using known)]
        rfl
  · rw [if_neg (by simp)]
    rfl

theorem checkEntry_of_admits {entry : Entry × Token} (admits : entry.1.Admits entry.2.word) :
    checkEntry entry = .ok () := by
  obtain ⟨_ | _, token⟩ := entry
  · rw [checkEntry_symbol]
    exact if_pos admits
  · rw [checkEntry_direction]
    exact if_pos admits

theorem checkEntry_of_not_admits {entry : Entry × Token} (refused : ¬ entry.1.Admits entry.2.word) :
    ∃ blame, checkEntry entry = .error blame ∧ blame.position = entry.2.position ∧
      blame.fault.message = entry.1.complaint entry.2.word := by
  obtain ⟨_ | _, token⟩ := entry
  · rw [checkEntry_symbol]
    exact ⟨_, if_neg refused, rfl, rfl⟩
  · rw [checkEntry_direction]
    exact ⟨_, if_neg refused, rfl, rfl⟩

/-! ### The line of a rule -/

theorem forget_readSymbols (tokens : List Token) :
    forget (readSymbols tokens) = forM (tokens.map (Entry.symbol, ·)) checkEntry := by
  rw [readSymbols_eq_mapM, forget_mapM, List.forM_map]
  rfl

theorem forget_readDirections (tokens : List Token) :
    forget (readDirections tokens) = forM (tokens.map (Entry.direction, ·)) checkEntry := by
  rw [readDirections_eq_mapM, forget_mapM, List.forM_map]
  rfl

/-- Reading a line with enough words checks its entries in their order. -/
theorem forget_readRule {tapes : Nat} {line : Line} (fields : line.words.length = 3 * tapes + 2) :
    forget (readRule tapes line) = forM (entries tapes line.words) checkEntry := by
  obtain ⟨source, target, -, -, read⟩ := readRule_eq fields
  rw [read, entries, List.forM_append, List.forM_append, ← forget_readSymbols, ← forget_readSymbols,
    ← forget_readDirections]
  cases readSymbols ((line.words.drop 1).take tapes) with
  | error blame => rfl
  | ok reads =>
      cases readSymbols ((line.words.drop (tapes + 2)).take tapes) with
      | error blame => rfl
      | ok writes => cases readDirections (line.words.drop (2 * tapes + 2)) <;> rfl

theorem exists_readRule {tapes : Nat} {line : Line} (readable : Readable tapes line.words) :
    ∃ rule, readRule tapes line = .ok rule := by
  have checked := forget_readRule readable.length_eq
  rw [forM_eq_ok fun entry mem => checkEntry_of_admits (readable.entries_admitted entry mem)] at checked
  cases read : readRule tapes line with
  | ok rule => exact ⟨rule, rfl⟩
  | error blame =>
      rw [read] at checked
      cases checked

/-- A malformed line is blamed for what is wrong with it first. -/
theorem readRule_malformed {tapes : Nat} {line : Line} (words : line.words ≠ [])
    (malformed : ¬ Readable tapes line.words) :
    ∃ blame, readRule tapes line = .error blame ∧
      Blames tapes line.words blame.position blame.fault.message := by
  by_cases fields : line.words.length = 3 * tapes + 2
  · have refused : ∃ entry ∈ entries tapes line.words, ¬ entry.1.Admits entry.2.word := by
      by_contra admitted
      push Not at admitted
      exact malformed ⟨fields, admitted⟩
    obtain ⟨before, entry, after, parted, admitted, refused⟩ := exists_first_not refused
    obtain ⟨blame, failed, position, message⟩ := checkEntry_of_not_admits refused
    have checked := forget_readRule fields
    rw [parted, forM_eq_error (fun earlier mem => checkEntry_of_admits (admitted earlier mem)) failed]
      at checked
    cases read : readRule tapes line with
    | ok rule =>
        rw [read] at checked
        cases checked
    | error other =>
        rw [read] at checked
        cases checked
        refine ⟨blame, rfl, ?_⟩
        rw [position, message]
        exact .entry fields parted admitted refused
  · obtain ⟨first, others, front⟩ := List.exists_cons_of_ne_nil words
    refine ⟨line.blame (.fieldCount tapes line.words.length), by rw [readRule, if_neg fields], ?_⟩
    have place : (line.blame (.fieldCount tapes line.words.length)).position = first.position := by
      rw [Line.blame, front]
    have told : (line.blame (.fieldCount tapes line.words.length)).fault =
        .fieldCount tapes line.words.length := by
      rw [Line.blame, front]
    rw [place, told]
    exact .count (by rw [front]; rfl) fields

/-! ### The lines after the header -/

/-- Lines are read up to the first that is malformed. -/
theorem readRules_malformed {tapes : Nat} {before after : List Line} {line : Line} {blame : Blame}
    (readable : ∀ earlier ∈ before, Readable tapes earlier.words)
    (failed : readRule tapes line = .error blame) :
    readRules tapes (before ++ line :: after) = .error blame := by
  induction before with
  | nil =>
      rw [List.nil_append, readRules, failed]
      rfl
  | cons first before ih =>
      obtain ⟨firstReadable, others⟩ := List.forall_mem_cons.1 readable
      obtain ⟨rule, read⟩ := exists_readRule firstReadable
      rw [List.cons_append, readRules, read, ih others]
      rfl

theorem readTapeCount_some {token : Token} (positive : 0 < Text.numeral token.word)
    (bounded : Text.numeral token.word < Text.wordBound) :
    readTapeCount (some token) = .ok (Text.numeral token.word) := by
  simp only [readTapeCount, if_neg (Nat.ne_of_gt positive), if_pos bounded]

/-- The number of tapes is parted from the rules as the layout says. -/
theorem splitCount_eq {lines : List Line} {tapes : Nat} {rules : List (List Token)}
    (parted : tapesAndRules (lines.map Line.words) = (tapes, rules)) (positive : 0 < tapes)
    (bounded : tapes < Text.wordBound) :
    readTapeCount (splitCount lines).1 = .ok tapes ∧ (splitCount lines).2.map Line.words = rules := by
  rcases lines with _ | ⟨⟨_ | ⟨token, _ | ⟨second, others⟩⟩, stop⟩, lines⟩
  · cases parted
    exact ⟨rfl, rfl⟩
  · cases parted
    exact ⟨rfl, rfl⟩
  · by_cases digits : token.word.all Char.isDigit = true
    · have told : (Text.numeral token.word, lines.map Line.words) = (tapes, rules) := by
        rw [← parted, List.map_cons, tapesAndRules]
        exact (if_pos digits).symm
      cases told
      rw [splitCount, Line.count?]
      dsimp only
      rw [if_pos digits]
      exact ⟨readTapeCount_some positive bounded, rfl⟩
    · have told : (1, [token] :: lines.map Line.words) = (tapes, rules) := by
        rw [← parted, List.map_cons, tapesAndRules]
        exact (if_neg digits).symm
      cases told
      rw [splitCount, Line.count?]
      dsimp only
      rw [if_neg digits]
      exact ⟨rfl, rfl⟩
  · cases parted
    exact ⟨rfl, rfl⟩

theorem ne_nil_of_mem_placedBody? {text : List Char} {body : List (List Token)}
    (layout : placedBody? text = some body) : ∀ line ∈ body, line ≠ [] := by
  unfold placedBody? at layout
  split at layout
  · rename_i rest front
    rw [Option.ite_none_right_eq_some] at layout
    obtain ⟨-, ⟨⟩⟩ := layout
    intro line mem
    have later : line ∈ (placedLines 0 text).dropWhile isPlacedComment := by
      rw [front]
      simp [(List.mem_filter.1 mem).1]
    have kept := (List.dropWhile_sublist isPlacedComment).mem later
    rw [placedLines, List.mem_filter] at kept
    simpa using kept.2
  · cases layout

theorem ne_nil_of_mem_tapesAndRules {body : List (List Token)} (words : ∀ line ∈ body, line ≠ []) :
    ∀ line ∈ (tapesAndRules body).2, line ≠ [] := by
  unfold tapesAndRules
  split
  · split
    · exact fun line mem => words line (List.mem_cons_of_mem _ mem)
    · exact words
  · exact words

/-- Where a text has a header and its number of tapes is in bounds, but some line behind it holds no rule, the
    first such line is blamed for what is wrong with it first. What the declarations mean together does not
    matter, nor what the lines after it hold. -/
theorem first_malformed_line_is_blamed (text : String) {tapes : Nat} {rules : List (List Token)}
    (layout : (placedBody? (Text.trim text.toList)).map tapesAndRules = some (tapes, rules))
    (positive : 0 < tapes) (bounded : 3 * tapes + 2 < Text.wordBound)
    (malformed : ∃ line ∈ rules, ¬ Readable tapes line) :
    ∃ before line after diagnostic, rules = before ++ line :: after ∧
      (∀ earlier ∈ before, Readable tapes earlier) ∧ ¬ Readable tapes line ∧
      Blames tapes line diagnostic.position diagnostic.fault.message ∧
      diagnostic.text = Text.trim text.toList ∧
      parse text = .error (.malformed diagnostic) := by
  obtain ⟨body, placed, parted⟩ := Option.map_eq_some_iff.1 layout
  obtain ⟨outline, lines, read, rfl, split⟩ := exists_outline_of_placedBody? (sealed_trim _) placed
  obtain ⟨count, same⟩ := splitCount_eq parted positive (by omega)
  rw [split] at count same
  dsimp only at count same
  obtain ⟨before, line, after, rfl, readable, refused⟩ := exists_first_not malformed
  -- The lines as they are read, parted in the same place.
  obtain ⟨earlier, rest, rulesEq, rfl, later⟩ := List.map_eq_append_iff.1 same
  obtain ⟨first, others, rfl, rfl, rfl⟩ := List.map_eq_cons_iff.1 later
  have words : first.words ≠ [] := by
    have nonempty := ne_nil_of_mem_tapesAndRules (ne_nil_of_mem_placedBody? placed)
    rw [parted] at nonempty
    exact nonempty first.words (by simp)
  obtain ⟨blame, failed, blames⟩ := readRule_malformed words refused
  have told : readRules tapes outline.rules = .error blame := by
    rw [rulesEq]
    exact readRules_malformed (fun line mem => readable _ (List.mem_map_of_mem mem)) failed
  refine ⟨earlier.map Line.words, first.words, others.map Line.words,
    ⟨Text.trim text.toList, blame.position, blame.length, blame.fault⟩, rfl, readable, refused, blames,
    rfl, ?_⟩
  rw [parse, parseChars, readDeclarations, read]
  dsimp only
  have blamed : outline.declarations = .error blame := by
    rw [Outline.declarations, count]
    show readRules tapes outline.rules >>= _ = _
    rw [told]
    rfl
  rw [blamed]

/-- A description for two tapes with a state that is declared twice, an initial state that is not declared, a
    rule that is well-formed, a rule with two malformed entries, and a rule that breaks off. -/
def severalFaults : String :=
  "q q\n0\n0 1 _\nstart\n_\nh\n2\nq 0 1 q 1 0 R L\n q 01 1 q 1 0 R U\nq 0"

/-- The lines of the rules of `severalFaults`. -/
def severalFaultsRules : List (List Token) :=
  [[⟨24, ['q']⟩, ⟨26, ['0']⟩, ⟨28, ['1']⟩, ⟨30, ['q']⟩, ⟨32, ['1']⟩, ⟨34, ['0']⟩, ⟨36, ['R']⟩,
      ⟨38, ['L']⟩],
    [⟨41, ['q']⟩, ⟨43, ['0', '1']⟩, ⟨46, ['1']⟩, ⟨48, ['q']⟩, ⟨50, ['1']⟩, ⟨52, ['0']⟩, ⟨54, ['R']⟩,
      ⟨56, ['U']⟩],
    [⟨58, ['q']⟩, ⟨60, ['0']⟩]]

theorem placedBody?_severalFaults :
    (placedBody? (Text.trim severalFaults.toList)).map tapesAndRules = some (2, severalFaultsRules) := by
  decide +kernel

theorem first_malformed_line_of_severalFaults :
    (placedBody? (Text.trim severalFaults.toList)).map tapesAndRules = some (2, severalFaultsRules) ∧
      ∃ before line after diagnostic, severalFaultsRules = before ++ line :: after ∧
        (∀ earlier ∈ before, Readable 2 earlier) ∧ ¬ Readable 2 line ∧
        Blames 2 line diagnostic.position diagnostic.fault.message ∧
        diagnostic.text = Text.trim severalFaults.toList ∧
        parse severalFaults = .error (.malformed diagnostic) :=
  ⟨placedBody?_severalFaults,
    first_malformed_line_is_blamed severalFaults placedBody?_severalFaults (by decide) (by decide)
      ⟨[⟨58, ['q']⟩, ⟨60, ['0']⟩], by decide, fun readable => absurd readable.length_eq (by decide)⟩⟩

example : parse severalFaults =
    .error (.malformed ⟨severalFaults.toList, 43, 2, .severalSymbols ['0', '1']⟩) := by
  rfl

end Multitape.Description
