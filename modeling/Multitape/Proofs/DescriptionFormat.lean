/-
Module: Multitape.Proofs.DescriptionFormat
Purpose: The reader of descriptions reads exactly the texts that have the layout of lines and words,
  and reads from them what the layout tells.
Main exports: Agree, AtLine, Sections, sections?, read_agrees, declarations_agree,
  readDeclarations_agrees, parse_eq_build_declared
-/
import Multitape.Proofs.DescriptionReader

namespace Multitape.Description

open Layout

/-! ### Agreement -/

/-- A reader and a layout agree if both find nothing, or if what they find is related. -/
inductive Agree {ε α β : Type} (related : α → β → Prop) : Except ε α → Option β → Prop where
  | found {a : α} {b : β} (same : related a b) : Agree related (.ok a) (some b)
  | missing (error : ε) : Agree related (.error error) none

namespace Agree

variable {ε α β γ δ : Type} {related : α → β → Prop} {outcome : γ → δ → Prop}

/-- What agrees step by step agrees as a whole. -/
theorem bind {x : Except ε α} {y : Option β} (first : Agree related x y) {f : α → Except ε γ}
    {g : β → Option δ} (rest : ∀ a b, related a b → Agree outcome (f a) (g b)) :
    Agree outcome (x >>= f) (y >>= g) := by
  cases first with
  | found same => exact rest _ _ same
  | missing error => exact .missing error

theorem bind_eq {x : Except ε α} {y : Option α} (first : Agree Eq x y) {f : α → Except ε γ}
    {g : α → Option δ} (rest : ∀ a, Agree outcome (f a) (g a)) :
    Agree outcome (x >>= f) (y >>= g) := by
  apply first.bind
  intro a b same
  subst same
  exact rest a

/-- What agrees on every member agrees on a list, which is read up to the first member that is
    refused. -/
theorem mapM {f : α → Except ε γ} {g : β → Option γ} {h : α → β}
    (each : ∀ a, Agree Eq (f a) (g (h a))) (list : List α) :
    Agree Eq (list.mapM f) ((list.map h).mapM g) := by
  induction list with
  | nil => exact .found rfl
  | cons a list ih =>
      rw [List.map_cons, List.mapM_cons, List.mapM_cons]
      apply (each a).bind_eq
      intro first
      apply ih.bind_eq
      intro others
      exact .found rfl

theorem eq_ok {x : Except ε α} {a : α} (agree : Agree Eq x (some a)) : x = .ok a := by
  cases agree with
  | found same => rw [same]

end Agree

/-! ### Header lines -/

/-- A cursor at the start of some lines, in a text that ends with a word. -/
structure AtLine (rows : List (List (List Char))) (cursor : Cursor) : Prop where
  lines_eq : lines cursor.rest = rows
  starts : Fresh cursor.rest
  ends : Sealed cursor.rest

/-- A row of words that fit, if another line follows. -/
def takeRow? (wanted : Wanted) :
    List (List (List Char)) → Option (List (List Char) × List (List (List Char)))
  | row :: next :: others => if row.all (fits wanted) then some (row, next :: others) else none
  | _ => none

/-- One word that fits, alone on a line, if another line follows. -/
def takeSingle? (wanted : Wanted) :
    List (List (List Char)) → Option (List Char × List (List (List Char)))
  | [word] :: next :: others => if fits wanted word then some (word, next :: others) else none
  | _ => none

theorem eq_cons_of_takeRow? {wanted : Wanted} {rows others : List (List (List Char))}
    {row : List (List Char)} (found : takeRow? wanted rows = some (row, others)) :
    rows = row :: others ∧ others ≠ [] := by
  rcases rows with _ | ⟨first, _ | ⟨next, more⟩⟩
  · cases found
  · cases found
  · rw [takeRow?, Option.ite_none_right_eq_some] at found
    obtain ⟨-, ⟨⟩⟩ := found
    exact ⟨rfl, List.cons_ne_nil _ _⟩

theorem eq_cons_of_takeSingle? {wanted : Wanted} {rows others : List (List (List Char))}
    {word : List Char} (found : takeSingle? wanted rows = some (word, others)) :
    rows = [word] :: others ∧ others ≠ [] := by
  rcases rows with _ | ⟨_ | ⟨first, _ | ⟨second, words⟩⟩, _ | ⟨next, more⟩⟩ <;> try cases found
  rw [takeSingle?, Option.ite_none_right_eq_some] at found
  obtain ⟨-, ⟨⟩⟩ := found
  exact ⟨rfl, List.cons_ne_nil _ _⟩

namespace AtLine

variable {rows others : List (List (List Char))} {row : List (List Char)} {cursor : Cursor}

theorem rest_eq_nil (place : AtLine [] cursor) : cursor.rest = [] := by
  apply Classical.byContradiction
  intro nonempty
  exact place.ends.lines_ne_nil nonempty place.lines_eq

theorem lineWords_eq (place : AtLine (row :: others) cursor) :
    lineWords cursor.rest = row ∧ row ≠ [] ∧ lines (pastLine cursor.rest) = others := by
  have same := place.lines_eq
  have something : cursor.rest ≠ [] := by
    intro nothing
    rw [nothing] at same
    cases same
  obtain ⟨nonempty, whole, -⟩ := place.starts.lines_eq something
  rw [whole] at same
  obtain ⟨rfl, rfl⟩ := List.cons.inj same
  exact ⟨rfl, nonempty, rfl⟩

/-- Behind the words of its line a cursor finds the next line, unless there is none. -/
theorem lineBreaks?_cases (place : AtLine (row :: others) cursor) {last : Cursor}
    (same : pastLine last.rest = pastLine cursor.rest) (wordless : lineWords last.rest = []) :
    (others = [] ∧ last.lineBreaks? = none) ∨
      others ≠ [] ∧ ∃ next, last.lineBreaks? = some next ∧ AtLine others next := by
  obtain ⟨-, -, behind⟩ := place.lineWords_eq
  have ends : Sealed (pastLine cursor.rest) := place.ends.suffix (List.dropWhile_suffix _)
  by_cases past : pastLine cursor.rest = []
  · rw [past] at behind
    exact Or.inl ⟨behind.symm, Cursor.lineBreaks?_eq_none (Or.inr (same.trans past))⟩
  · obtain ⟨next, found, sameLines, starts, suffix⟩ :=
      Cursor.exists_lineBreaks? wordless (by rw [same]; exact past)
    rw [same] at sameLines suffix
    refine Or.inr ⟨?_, next, found, sameLines.trans behind, starts, ends.suffix suffix⟩
    rw [← behind]
    exact ends.lines_ne_nil past

end AtLine

/-- What a reader and a layout make of the same row. -/
def SameRow (read : List Token × Stop × Cursor)
    (row : List (List Char) × List (List (List Char))) : Prop :=
  read.1.map Token.word = row.1 ∧ AtLine row.2 read.2.2 ∧ row.2 ≠ []

/-- What a reader and a layout make of the same word. -/
def SameWord (read : Token × Cursor) (word : List Char × List (List (List Char))) : Prop :=
  read.1.word = word.1 ∧ AtLine word.2 read.2 ∧ word.2 ≠ []

theorem readRow_agrees (wanted : Wanted) {rows : List (List (List Char))} {cursor : Cursor}
    (place : AtLine rows cursor) :
    Agree SameRow (readRow wanted cursor) (takeRow? wanted rows) := by
  obtain ⟨tokens, left, past⟩ := cursor.words_spec wanted
  unfold readRow
  dsimp only
  cases rows with
  | nil =>
      rw [place.rest_eq_nil] at tokens
      rw [List.map_eq_nil_iff.1 tokens]
      exact .missing _
  | cons row others =>
      obtain ⟨words, nonempty, -⟩ := place.lineWords_eq
      rw [words] at tokens left
      cases good : row.all (fits wanted) with
      | true =>
          have all : ∀ word ∈ row, fits wanted word = true := List.all_eq_true.1 good
          rw [List.takeWhile_eq_self_iff.2 all] at tokens
          rw [List.dropWhile_eq_nil_iff.2 all] at left
          have readSome : (cursor.words wanted).1 ≠ [] := by
            intro nothing
            rw [nothing] at tokens
            exact nonempty tokens.symm
          obtain ⟨token, more, found⟩ := List.exists_cons_of_ne_nil readSome
          rcases place.lineBreaks?_cases past left with
            ⟨rfl, noBreak⟩ | ⟨follows, next, broken, there⟩
          · rw [noBreak, found]
            exact .missing _
          · obtain ⟨second, others, rfl⟩ := List.exists_cons_of_ne_nil follows
            rw [broken, found, takeRow?, if_pos good]
            rw [found] at tokens
            exact .found ⟨tokens, there, follows⟩
      | false =>
          have unread : lineWords (cursor.words wanted).2.rest ≠ [] := by
            rw [left]
            intro nothing
            rw [List.dropWhile_eq_nil_iff] at nothing
            rw [List.all_eq_true.2 nothing] at good
            cases good
          have missed : takeRow? wanted (row :: others) = none := by
            cases others <;> simp [takeRow?, good]
          rw [Cursor.lineBreaks?_eq_none (Or.inl unread), missed]
          cases (cursor.words wanted).1 <;> exact .missing _

theorem readSingle_agrees (wanted : Wanted) (stop : Stop) {rows : List (List (List Char))}
    {cursor : Cursor} (place : AtLine rows cursor) :
    Agree SameWord (readSingle wanted stop cursor) (takeSingle? wanted rows) := by
  unfold readSingle
  cases rows with
  | nil =>
      rw [Cursor.wanted?_of_lineWords_nil (by rw [place.rest_eq_nil]; rfl)]
      exact .missing _
  | cons row others =>
      obtain ⟨words, nonempty, -⟩ := place.lineWords_eq
      obtain ⟨word, more, rfl⟩ := List.exists_cons_of_ne_nil nonempty
      obtain ⟨last, left, past, -, step⟩ := Cursor.wanted?_of_lineWords_cons words wanted
      rw [step]
      cases good : fits wanted word with
      | false =>
          have missed : takeSingle? wanted ((word :: more) :: others) = none := by
            cases more <;> cases others <;> simp [takeSingle?, good]
          rw [missed]
          exact .missing _
      | true =>
          simp only [if_true]
          cases more with
          | cons second more =>
              rw [Cursor.lineBreaks?_eq_none (Or.inl (by rw [left]; exact List.cons_ne_nil _ _))]
              exact .missing _
          | nil =>
              rcases place.lineBreaks?_cases past left with
                ⟨rfl, noBreak⟩ | ⟨follows, next, broken, there⟩
              · rw [noBreak]
                exact .missing _
              · obtain ⟨second, others, rfl⟩ := List.exists_cons_of_ne_nil follows
                rw [broken, takeSingle?, if_pos good]
                exact .found ⟨rfl, there, follows⟩

/-- What is read as the last row of the header are all words of its line. -/
theorem words_of_readLastRow {wanted : Wanted} {cursor : Cursor} {found : List Token × Cursor}
    (read : readLastRow wanted cursor = .ok found) : cursor.words wanted = found := by
  unfold readLastRow at read
  split at read
  · cases read
  · rename_i same
    rw [same]
    exact Except.ok.inj read

/-- The last row of the header is read if there is one. -/
theorem exists_readLastRow {row : List (List Char)} {others : List (List (List Char))} {cursor : Cursor}
    (place : AtLine (row :: others) cursor) :
    ∃ tokens last, readLastRow .token cursor = .ok (tokens, last) ∧ tokens.map Token.word = row ∧
      lineWords last.rest = [] ∧ pastLine last.rest = pastLine cursor.rest := by
  obtain ⟨words, nonempty, -⟩ := place.lineWords_eq
  obtain ⟨tokens, left, past⟩ := cursor.words_token
  rw [words] at tokens
  refine ⟨(cursor.words .token).1, (cursor.words .token).2, ?_, tokens, left, past⟩
  unfold readLastRow
  split
  · rename_i read
    rw [read] at tokens
    exact absurd tokens.symm nonempty
  · rename_i read
    rw [read]

/-! ### Sections -/

/-- The sections of a description as rows of words: the header, and the lines after it that are no
    comments. -/
structure Sections where
  states : List (List Char)
  inputs : List (List Char)
  tapes : List (List Char)
  initial : List Char
  blank : List Char
  accepting : List (List Char)
  rest : List (List (List Char))

/-- The sections that lines make up. -/
def sections? (rows : List (List (List Char))) : Option Sections := do
  let (states, rows) ← takeRow? .token rows
  let (inputs, rows) ← takeRow? .symbol rows
  let (tapes, rows) ← takeRow? .symbol rows
  let (initial, rows) ← takeSingle? .token rows
  let (blank, rows) ← takeSingle? .symbol rows
  return ⟨states, inputs, tapes, initial, blank, rows.headD [], rows.tail.filter (!isComment ·)⟩

/-- An outline has the words of the sections. -/
structure Outline.Holds (outline : Outline) (sections : Sections) : Prop where
  states : outline.states.map Token.word = sections.states
  inputs : outline.inputAlphabet.map Token.word = sections.inputs
  tapes : outline.tapeAlphabet.map Token.word = sections.tapes
  initial : outline.initial.word = sections.initial
  blank : outline.blank.word = sections.blank
  accepting : outline.accepting.map Token.word = sections.accepting
  rest : ∃ lines, lines.map Line.row = sections.rest ∧
    splitCount lines = (outline.tapeCount, outline.rules)

/-- Comments before the states are gone over. A comment that is left is the last line, and makes no
    header. -/
theorem exists_atLine_skipComments {text : List Char} (ends : Sealed text) :
    ∃ rows, AtLine rows (Cursor.start text).skipComments ∧
      takeRow? .token rows = takeRow? .token ((lines text).dropWhile isComment) := by
  obtain ⟨comments, all, before, starts, within, last⟩ := (Cursor.start text).skipComments_spec
  generalize (Cursor.start text).skipComments = first at before starts within last
  refine ⟨lines first.rest, ⟨rfl, starts, ends.suffix within⟩, ?_⟩
  rw [show lines text = comments ++ lines first.rest from before,
    List.dropWhile_append_of_pos all]
  by_cases nonempty : first.rest = []
  · rw [nonempty]
    rfl
  · obtain ⟨-, whole, comment⟩ := starts.lines_eq nonempty
    rw [whole]
    by_cases mark : first.rest.head? = some commentMark
    · rw [last mark, lines_nil, List.dropWhile_cons_of_pos (comment.2 mark)]
      rfl
    · rw [List.dropWhile_cons_of_neg (by rw [comment]; exact mark)]

/-- The sections are read. -/
theorem read_agrees {text : List Char} (ends : Sealed text) :
    Agree Outline.Holds (Outline.read text) (sections? ((lines text).dropWhile isComment)) := by
  obtain ⟨rows, place, same⟩ := exists_atLine_skipComments ends
  unfold Outline.read sections?
  rw [← same]
  apply (readRow_agrees .token place).bind
  rintro ⟨states, _, cursor⟩ ⟨_, rows⟩ ⟨rfl, place, -⟩
  apply (readRow_agrees .symbol place).bind
  rintro ⟨inputs, _, cursor⟩ ⟨_, rows⟩ ⟨rfl, place, -⟩
  apply (readRow_agrees .symbol place).bind
  rintro ⟨tapes, stop, cursor⟩ ⟨_, rows⟩ ⟨rfl, place, -⟩
  apply (readSingle_agrees .token stop place).bind
  rintro ⟨initial, cursor⟩ ⟨_, rows⟩ ⟨rfl, place, -⟩
  apply (readSingle_agrees .symbol stop place).bind
  rintro ⟨blank, cursor⟩ ⟨_, rows⟩ ⟨rfl, place, follows⟩
  obtain ⟨accepting, others, rfl⟩ := List.exists_cons_of_ne_nil follows
  dsimp only at place ⊢
  obtain ⟨-, -, behind⟩ := place.lineWords_eq
  obtain ⟨tokens, last, read, words, left, past⟩ := exists_readLastRow place
  obtain ⟨split, stillLeft⟩ := splitCount_readLines left
  have body := (readLines_spec left).1
  rw [past, behind] at body
  rw [read]
  show Agree Outline.Holds (readEnd (readLines (readCount last).2).2 >>= fun _ => _) _
  rw [readEnd_readLines stillLeft]
  exact .found ⟨rfl, rfl, rfl, rfl, rfl, words, _, body, split⟩

/-! ### Rules and the number of tapes -/

theorem symbol_agrees (token : Token) : Agree Eq token.symbol (symbol? token.word) := by
  obtain ⟨position, word⟩ := token
  rcases word with _ | ⟨symbol, _ | ⟨second, others⟩⟩
  · exact .missing _
  · exact .found rfl
  · exact .missing _

theorem direction_agrees (token : Token) : Agree Eq token.direction (direction? token.word) := by
  obtain ⟨position, word⟩ := token
  rcases word with _ | ⟨letter, _ | ⟨second, others⟩⟩
  · exact .missing _
  · unfold Token.direction direction?
    rw [symbol?, Option.bind_some]
    dsimp only
    cases Direction.ofLetter? letter with
    | some direction => exact .found rfl
    | none => exact .missing _
  · exact .missing _

theorem readSymbols_eq_mapM (tokens : List Token) :
    readSymbols tokens = tokens.mapM Token.symbol := by
  induction tokens with
  | nil => rfl
  | cons token tokens ih => rw [readSymbols, List.mapM_cons, ih]

theorem readDirections_eq_mapM (tokens : List Token) :
    readDirections tokens = tokens.mapM Token.direction := by
  induction tokens with
  | nil => rfl
  | cons token tokens ih => rw [readDirections, List.mapM_cons, ih]

theorem readRules_eq_mapM (tapes : Nat) (lines : List Line) :
    readRules tapes lines = lines.mapM (readRule tapes) := by
  induction lines with
  | nil => rfl
  | cons line lines ih => rw [readRules, List.mapM_cons, ih]

/-- The line of a rule is read part by part if it has as many words as it must have. -/
theorem readRule_eq {tapes : Nat} {line : Line} (fields : line.words.length = 3 * tapes + 2) :
    ∃ source target, line.words[0]? = some source ∧ line.words[tapes + 1]? = some target ∧
      readRule tapes line = (do
        let read ← readSymbols ((line.words.drop 1).take tapes)
        let write ← readSymbols ((line.words.drop (tapes + 2)).take tapes)
        let directions ← readDirections (line.words.drop (2 * tapes + 2))
        return ⟨source.name, read, target.name, write, directions⟩) := by
  obtain ⟨source, words, front⟩ : ∃ source words, line.words = source :: words :=
    List.exists_cons_of_ne_nil (List.length_pos_iff.1 (by omega))
  obtain ⟨target, others, back⟩ :
      ∃ target others, line.words.drop (tapes + 1) = target :: others :=
    List.exists_cons_of_ne_nil (List.length_pos_iff.1 (by rw [List.length_drop]; omega))
  have written : line.words.drop (tapes + 2) = others := by
    rw [show tapes + 2 = tapes + 1 + 1 from rfl, ← List.drop_drop, back]
    rfl
  have moved : line.words.drop (2 * tapes + 2) = others.drop tapes := by
    rw [show 2 * tapes + 2 = tapes + 2 + tapes by omega, ← List.drop_drop, written]
  refine ⟨source, target, by rw [front]; rfl, by rw [← List.head?_drop, back]; rfl, ?_⟩
  unfold readRule
  rw [if_pos fields, written, moved, back, front]
  rfl

theorem readRule_agrees (tapes : Nat) (line : Line) :
    Agree Eq (readRule tapes line) (rule? tapes line.row) := by
  have length : line.row.length = line.words.length := List.length_map _
  unfold rule?
  rw [length]
  by_cases fields : line.words.length = 3 * tapes + 2
  · obtain ⟨source, target, first, middle, read⟩ := readRule_eq fields
    rw [if_pos fields, read, readSymbols_eq_mapM, readSymbols_eq_mapM, readDirections_eq_mapM]
    simp only [Line.row, List.getElem?_map, first, middle, Option.map_some, Option.bind_eq_bind,
      Option.bind_some, ← List.map_drop, ← List.map_take]
    apply (Agree.mapM symbol_agrees _).bind_eq
    intro read
    apply (Agree.mapM symbol_agrees _).bind_eq
    intro write
    apply (Agree.mapM direction_agrees _).bind_eq
    intro directions
    exact .found rfl
  · unfold readRule
    rw [if_neg fields, if_neg fields]
    exact .missing _

/-- The number of tapes and the rules, from the lines after the header. -/
def readBody (lines : List Line) : Except Blame (Nat × List RuleDeclaration) := do
  let tapes ← readTapeCount (splitCount lines).1
  let rules ← readRules tapes (splitCount lines).2
  return (tapes, rules)

theorem readRules_agrees (tapes : Nat) (lines : List Line) :
    Agree Eq (readRules tapes lines) ((lines.map Line.row).mapM (rule? tapes)) := by
  rw [readRules_eq_mapM]
  exact Agree.mapM (readRule_agrees tapes) lines

/-- The line of one word is the number of tapes or nothing, since no rule has one word. -/
theorem readBody_agrees (lines : List Line) :
    Agree Eq (readBody lines) (body? (lines.map Line.row)) := by
  have rulesOnly : ∀ tapes lines,
      Agree Eq (do let rules ← readRules tapes lines; return (tapes, rules))
        (((lines.map Line.row).mapM (rule? tapes)).map (tapes, ·)) := by
    intro tapes lines
    rw [Option.map_eq_bind]
    apply (readRules_agrees tapes lines).bind_eq
    intro rules
    exact .found rfl
  cases lines with
  | nil => exact .found rfl
  | cons line others =>
      obtain ⟨words, stop⟩ := line
      rcases words with _ | ⟨token, _ | ⟨second, more⟩⟩
      · exact rulesOnly 1 (⟨[], stop⟩ :: others)
      · cases digits : token.word.all Char.isDigit with
        | false =>
            simp only [readBody, splitCount, Line.count?, List.map_cons, Line.row, List.map_nil,
              body?, digits]
            exact .missing _
        | true =>
            simp only [readBody, splitCount, Line.count?, List.map_cons, Line.row, List.map_nil,
              body?, digits, if_true, readTapeCount]
            by_cases zero : Text.numeral token.word = 0
            · simp only [zero]
              exact .missing _
            · by_cases fits : Text.numeral token.word < Text.wordBound
              · simp only [zero, fits, Nat.pos_of_ne_zero zero]
                exact rulesOnly _ others
              · simp only [zero, fits, and_false, if_false]
                exact .missing _
      · exact rulesOnly 1 (⟨token :: second :: more, stop⟩ :: others)

/-! ### Declarations -/

/-- What sections declare. -/
def Sections.declared? (sections : Sections) : Option Declarations := do
  let (count, rules) ← body? sections.rest
  return {
    states := sections.states.map String.ofList
    inputAlphabet := Alphabet.ofList sections.inputs.flatten
    tapeAlphabet := Alphabet.ofList sections.tapes.flatten
    blank := sections.blank.headD defaultBlank
    tapeCount := count
    initial := some (String.ofList sections.initial)
    accepting := sections.accepting.map String.ofList
    rules := rules }

theorem declarations_agree {outline : Outline} {sections : Sections}
    (holds : outline.Holds sections) :
    Agree Eq outline.declarations sections.declared? := by
  obtain ⟨lines, rows, split⟩ := holds.rest
  have body := readBody_agrees lines
  rw [rows] at body
  have names : ∀ tokens : List Token,
      tokens.map Token.name = (tokens.map Token.word).map String.ofList := by
    intro tokens
    rw [List.map_map]
    rfl
  have read : outline.declarations = (do
      let (tapes, rules) ← readBody lines
      return {
        states := outline.states.map Token.name
        inputAlphabet := Alphabet.ofList (outline.inputAlphabet.flatMap (·.word))
        tapeAlphabet := Alphabet.ofList (outline.tapeAlphabet.flatMap (·.word))
        blank := outline.blank.word.headD defaultBlank
        tapeCount := tapes
        initial := some outline.initial.name
        accepting := outline.accepting.map Token.name
        rules := rules }) := by
    simp [Outline.declarations, readBody, split]
  rw [read]
  apply body.bind_eq
  intro read
  apply Agree.found
  rw [names, names, holds.states, holds.accepting, ← holds.inputs, ← holds.tapes, ← holds.initial,
    ← holds.blank]
  rfl

/-- A row of symbols is a row of words of one character. -/
theorem mapM_symbol? (words : List (List Char)) :
    words.mapM symbol? = if words.all (fits .symbol) then some words.flatten else none := by
  induction words with
  | nil => rfl
  | cons word words ih =>
      rw [List.mapM_cons, ih]
      rcases word with _ | ⟨symbol, _ | ⟨second, others⟩⟩
      · rfl
      · cases good : words.all (fits .symbol) <;> simp [symbol?, fits, good]
      · simp [symbol?, fits]

/-- The layout of a text is that of its sections. -/
theorem declared?_eq (text : List Char) :
    declared? text = (sections? ((lines text).dropWhile isComment)).bind Sections.declared? := by
  unfold declared?
  generalize (lines text).dropWhile isComment = rows
  split
  · rename_i states inputs tapes initial blank accepting rest
    have any : ∀ row : List (List Char), row.all (fits .token) = true := fun row => by simp [fits]
    cases good : inputs.all (fits .symbol) with
    | false => simp [mapM_symbol?, sections?, takeRow?, any, good, -List.all_eq_true]
    | true =>
        cases goodToo : tapes.all (fits .symbol) with
        | false => simp [mapM_symbol?, sections?, takeRow?, any, good, goodToo, -List.all_eq_true]
        | true =>
            rcases blank with _ | ⟨blank, _ | ⟨second, others⟩⟩ <;>
              simp [mapM_symbol?, sections?, takeRow?, takeSingle?, any, good, goodToo, symbol?,
                fits, Sections.declared?, -List.all_eq_true]
  · rename_i other
    have missed : sections? rows = none := by
      rw [Option.eq_none_iff_forall_ne_some]
      intro sections found
      simp only [sections?, Option.bind_eq_bind, Option.bind_eq_some_iff, Prod.exists] at found
      obtain ⟨states, _, first, inputs, _, second, tapes, _, third, initial, _, fourth, blank, _,
        fifth, -⟩ := found
      obtain ⟨rfl, -⟩ := eq_cons_of_takeRow? first
      obtain ⟨rfl, -⟩ := eq_cons_of_takeRow? second
      obtain ⟨rfl, -⟩ := eq_cons_of_takeRow? third
      obtain ⟨rfl, -⟩ := eq_cons_of_takeSingle? fourth
      obtain ⟨rfl, more⟩ := eq_cons_of_takeSingle? fifth
      obtain ⟨accepting, rest, rfl⟩ := List.exists_cons_of_ne_nil more
      exact other states inputs tapes initial blank accepting rest rfl
    rw [missed]
    rfl

/-- Both readings of a text that ends with a word. -/
theorem readDeclarations_agrees {text : List Char} (ends : Sealed text) :
    Agree Eq (readDeclarations text) (declared? text) := by
  have header := read_agrees ends
  rw [declared?_eq]
  unfold readDeclarations
  generalize sections? ((lines text).dropWhile isComment) = sections at header
  cases found : Outline.read text with
  | error stop =>
      rw [found] at header
      cases header
      exact .missing _
  | ok outline =>
      rw [found] at header
      cases header with
      | found holds => exact declarations_agree holds

/-- A trimmed text ends with a word. -/
theorem sealed_trim (text : List Char) : Sealed (Text.trim text) := by
  intro c mem
  rw [Text.trim, List.getLast?_reverse] at mem
  have visible :=
    List.head?_dropWhile_not Text.isWhiteSpace (text.dropWhile Text.isWhiteSpace).reverse
  rw [Option.mem_def.1 mem] at visible
  apply isWordCharacter_iff.2
  constructor
  · cases blank : isBlank c with
    | false => rfl
    | true =>
        rcases isBlank_iff.1 blank with rfl | rfl <;> cases visible
  · cases ends : isLineBreak c with
    | false => rfl
    | true =>
        rcases isLineBreak_iff.1 ends with rfl | rfl <;> cases visible

/-- A text with the layout of a description declares what its layout tells, and its program is what
    that builds; an inconsistency is one of these declarations. Every other text is malformed. -/
theorem parse_eq_build_declared (text : String) :
    (∀ declarations, declared? (Text.trim text.toList) = some declarations →
        parse text = declarations.build.mapError .inconsistent) ∧
      (declared? (Text.trim text.toList) = none ↔
        ∃ diagnostic, parse text = .error (.malformed diagnostic)) ∧
      ∀ cause, parse text = .error (.inconsistent cause) ↔
        ∃ declarations, declared? (Text.trim text.toList) = some declarations ∧
          declarations.build = .error cause := by
  have agrees := readDeclarations_agrees (sealed_trim text.toList)
  unfold parse parseChars
  dsimp only
  generalize declared? (Text.trim text.toList) = layout at agrees
  cases read : readDeclarations (Text.trim text.toList) with
  | error blame =>
      rw [read] at agrees
      cases agrees
      simp
  | ok declarations =>
      rw [read] at agrees
      cases agrees with
      | found same =>
          subst same
          refine ⟨?_, ?_, ?_⟩
          · rintro _ ⟨⟩
            rfl
          · cases built : declarations.build <;> simp [Except.mapError, built]
          · cases built : declarations.build <;> simp [Except.mapError, built]

end Multitape.Description
