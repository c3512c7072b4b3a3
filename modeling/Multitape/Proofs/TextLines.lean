/-
Module: Multitape.Proofs.TextLines
Purpose: Lines and words of a text, told from its front: what a first character, a first word or a
  first line contributes to them.
Main exports: Layout.firstLine, Layout.pastLine, Layout.lineWords, Layout.lines_eq,
  Layout.lineWords_cons, Layout.Fresh, Layout.Sealed
-/
import Multitape.Description.Layout
import Mathlib.Data.List.TakeWhile

namespace Multitape.Description

/-! ### Characters -/

theorem isLineBreak_iff {c : Char} : isLineBreak c = true ↔ c = '\n' ∨ c = '\r' := by
  simp [isLineBreak]

theorem isBlank_iff {c : Char} : isBlank c = true ↔ c = ' ' ∨ c = '\t' := by
  simp [isBlank]

theorem isWordCharacter_iff {c : Char} :
    isWordCharacter c = true ↔ isBlank c = false ∧ isLineBreak c = false := by
  simp [isWordCharacter]

/-- A blank ends no line. -/
theorem isLineBreak_of_isBlank {c : Char} (blank : isBlank c = true) : isLineBreak c = false := by
  rcases isBlank_iff.1 blank with rfl | rfl <;> rfl

theorem isLineBreak_of_isWordCharacter {c : Char} (word : isWordCharacter c = true) :
    isLineBreak c = false :=
  (isWordCharacter_iff.1 word).2

theorem isWordCharacter_of_isDigit {c : Char} (digit : c.isDigit = true) :
    isWordCharacter c = true := by
  apply isWordCharacter_iff.2
  constructor
  · cases blank : isBlank c with
    | false => rfl
    | true => rcases isBlank_iff.1 blank with rfl | rfl <;> cases digit
  · cases ends : isLineBreak c with
    | false => rfl
    | true => rcases isLineBreak_iff.1 ends with rfl | rfl <;> cases digit

namespace Layout

/-- What is left starts with a character of another kind. -/
theorem not_of_dropWhile {kind : Char → Bool} {text rest : List Char} {c : Char}
    (front : text.dropWhile kind = c :: rest) : kind c = false := by
  have other := List.head?_dropWhile_not kind text
  rw [front] at other
  exact other

/-! ### Pieces -/

/-- The first piece goes up to the first separator, and the others follow that. -/
theorem pieces_eq (isSeparator : Char → Bool) (text : List Char) :
    pieces isSeparator text = text.takeWhile (!isSeparator ·) ::
      match text.dropWhile (!isSeparator ·) with
      | [] => []
      | _ :: rest => pieces isSeparator rest := by
  induction text with
  | nil => rfl
  | cons c rest ih =>
      cases separates : isSeparator c with
      | true => simp [pieces, separates]
      | false =>
          rw [pieces, ih]
          simp [separates]

theorem pieces_separator {isSeparator : Char → Bool} {c : Char} (separates : isSeparator c = true)
    (rest : List Char) : pieces isSeparator (c :: rest) = [] :: pieces isSeparator rest := by
  rw [pieces, if_pos separates]

/-! ### Words of a line -/

@[simp] theorem words_nil : words [] = [] := rfl

theorem words_blank {c : Char} (blank : isBlank c = true) (line : List Char) :
    words (c :: line) = words line := by
  simp [words, pieces_separator blank]

theorem words_cons {c : Char} (visible : isBlank c = false) (line : List Char) :
    words (c :: line) =
      (c :: line.takeWhile (!isBlank ·)) :: words (line.dropWhile (!isBlank ·)) := by
  have others : words (line.dropWhile (!isBlank ·)) =
      (match line.dropWhile (!isBlank ·) with
        | [] => []
        | _ :: rest => pieces isBlank rest).filter (· ≠ []) := by
    cases tail : line.dropWhile (!isBlank ·) with
    | nil => rfl
    | cons blank rest =>
        have separates : isBlank blank = true := by
          simpa using not_of_dropWhile tail
        exact words_blank separates rest
  rw [others, words, pieces_eq]
  simp [visible]

/-! ### The first line of a text -/

/-- The text up to its first line break. -/
def firstLine (text : List Char) : List Char := text.takeWhile (!isLineBreak ·)

/-- The text from its first line break on. -/
def pastLine (text : List Char) : List Char := text.dropWhile (!isLineBreak ·)

/-- The words up to the first line break. -/
def lineWords (text : List Char) : List (List Char) := words (firstLine text)

theorem firstLine_break {c : Char} (ends : isLineBreak c = true) (rest : List Char) :
    firstLine (c :: rest) = [] := by
  simp [firstLine, ends]

theorem pastLine_break {c : Char} (ends : isLineBreak c = true) (rest : List Char) :
    pastLine (c :: rest) = c :: rest := by
  simp [pastLine, ends]

theorem firstLine_cons {c : Char} (inside : isLineBreak c = false) (rest : List Char) :
    firstLine (c :: rest) = c :: firstLine rest := by
  simp [firstLine, inside]

theorem pastLine_cons {c : Char} (inside : isLineBreak c = false) (rest : List Char) :
    pastLine (c :: rest) = pastLine rest := by
  simp [pastLine, inside]

theorem length_firstLine_add (text : List Char) :
    (firstLine text).length + (pastLine text).length = text.length := by
  rw [← List.length_append, firstLine, pastLine, List.takeWhile_append_dropWhile]

theorem isLineBreak_of_pastLine {text rest : List Char} {c : Char}
    (past : pastLine text = c :: rest) :
    isLineBreak c = true := by
  simpa using not_of_dropWhile past

/-- Going over characters of the line does not change what stands behind the line. -/
theorem pastLine_dropWhile {kind : Char → Bool}
    (inside : ∀ c, kind c = true → isLineBreak c = false) (text : List Char) :
    pastLine (text.dropWhile kind) = pastLine text := by
  induction text with
  | nil => rfl
  | cons c rest ih =>
      cases skipped : kind c with
      | true => rw [List.dropWhile_cons_of_pos skipped, ih, pastLine_cons (inside c skipped)]
      | false => rw [List.dropWhile_cons_of_neg (by simp [skipped])]

/-- Up to a blank or the end of its line goes the word with which a text starts. -/
theorem takeWhile_firstLine (text : List Char) :
    (firstLine text).takeWhile (!isBlank ·) = text.takeWhile isWordCharacter := by
  rw [firstLine, List.takeWhile_takeWhile]
  apply congrFun
  apply congrArg
  funext c
  simp [isWordCharacter]

/-- Within a line, words end at blanks. -/
theorem dropWhile_firstLine (text : List Char) :
    (firstLine text).dropWhile (!isBlank ·) = firstLine (text.dropWhile isWordCharacter) := by
  induction text with
  | nil => rfl
  | cons c rest ih =>
      cases ends : isLineBreak c with
      | true =>
          rw [List.dropWhile_cons_of_neg (by simp [isWordCharacter, ends]), firstLine_break ends]
          rfl
      | false =>
          rw [firstLine_cons ends]
          cases blank : isBlank c with
          | true =>
              rw [List.dropWhile_cons_of_neg (by simp [blank]),
                List.dropWhile_cons_of_neg (by simp [isWordCharacter, blank]), firstLine_cons ends]
          | false =>
              rw [List.dropWhile_cons_of_pos (by simp [blank]), ih,
                List.dropWhile_cons_of_pos (isWordCharacter_iff.2 ⟨blank, ends⟩)]

theorem lineWords_break {c : Char} (ends : isLineBreak c = true) (rest : List Char) :
    lineWords (c :: rest) = [] := by
  rw [lineWords, firstLine_break ends, words_nil]

theorem lineWords_blank {c : Char} (blank : isBlank c = true) (rest : List Char) :
    lineWords (c :: rest) = lineWords rest := by
  rw [lineWords, firstLine_cons (isLineBreak_of_isBlank blank), words_blank blank]
  rfl

/-- A line that starts with a character of a word starts with that word. -/
theorem lineWords_cons {c : Char} (word : isWordCharacter c = true) (rest : List Char) :
    lineWords (c :: rest) =
      (c :: rest.takeWhile isWordCharacter) :: lineWords (rest.dropWhile isWordCharacter) := by
  obtain ⟨visible, inside⟩ := isWordCharacter_iff.1 word
  rw [lineWords, firstLine_cons inside, words_cons visible, takeWhile_firstLine, dropWhile_firstLine]
  rfl

theorem lineWords_dropWhile_isBlank (text : List Char) :
    lineWords (text.dropWhile isBlank) = lineWords text := by
  induction text with
  | nil => rfl
  | cons c rest ih =>
      cases blank : isBlank c with
      | true => rw [List.dropWhile_cons_of_pos blank, ih, lineWords_blank blank]
      | false => rw [List.dropWhile_cons_of_neg (by simp [blank])]

/-- What stands behind blanks is a word, or the end of the line. -/
theorem lineWords_cases (text : List Char) :
    (lineWords text = [] ∧ text.dropWhile isBlank = pastLine text) ∨
      ∃ c rest, text.dropWhile isBlank = c :: rest ∧ isWordCharacter c = true ∧
        lineWords text = (c :: rest.takeWhile isWordCharacter) ::
          lineWords (rest.dropWhile isWordCharacter) := by
  rw [← lineWords_dropWhile_isBlank, ← pastLine_dropWhile (fun c => isLineBreak_of_isBlank) text]
  cases front : text.dropWhile isBlank with
  | nil => exact Or.inl ⟨rfl, rfl⟩
  | cons c rest =>
      cases ends : isLineBreak c with
      | true => exact Or.inl ⟨lineWords_break ends rest, (pastLine_break ends rest).symm⟩
      | false =>
          have word : isWordCharacter c = true :=
            isWordCharacter_iff.2 ⟨not_of_dropWhile front, ends⟩
          exact Or.inr ⟨c, rest, rfl, word, lineWords_cons word rest⟩

/-- A line without words is blank. -/
theorem dropWhile_isBlank_of_lineWords {text : List Char} (wordless : lineWords text = []) :
    text.dropWhile isBlank = pastLine text := by
  rcases lineWords_cases text with ⟨-, blank⟩ | ⟨c, rest, -, -, found⟩
  · exact blank
  · rw [wordless] at found
    cases found

/-! ### Lines -/

@[simp] theorem lines_nil : lines [] = [] := rfl

theorem lines_break {c : Char} (ends : isLineBreak c = true) (rest : List Char) :
    lines (c :: rest) = lines rest := by
  simp [lines, pieces_separator ends]

/-- The lines of a text are its first line, if that has words, and those behind it. -/
theorem lines_eq (text : List Char) :
    lines text = [lineWords text].filter (· ≠ []) ++ lines (pastLine text) := by
  have others : lines (pastLine text) =
      ((match text.dropWhile (!isLineBreak ·) with
        | [] => []
        | _ :: rest => pieces isLineBreak rest).map words).filter (· ≠ []) := by
    unfold pastLine
    cases past : text.dropWhile (!isLineBreak ·) with
    | nil => rfl
    | cons c rest => exact lines_break (isLineBreak_of_pastLine past) rest
  rw [others, lines, pieces_eq, List.map_cons, ← List.singleton_append, List.filter_append]
  rfl

theorem lines_of_lineWords_cons {text word : List Char} {others : List (List Char)}
    (found : lineWords text = word :: others) :
    lines text = (word :: others) :: lines (pastLine text) := by
  rw [lines_eq, found]
  rfl

theorem lines_blank {c : Char} (blank : isBlank c = true) (rest : List Char) :
    lines (c :: rest) = lines rest := by
  rw [lines_eq, lineWords_blank blank, pastLine_cons (isLineBreak_of_isBlank blank), ← lines_eq]

/-- Blanks and line breaks before a text add no lines to it. -/
theorem lines_dropWhile {kind : Char → Bool}
    (empty : ∀ c, kind c = true → isBlank c = true ∨ isLineBreak c = true) (text : List Char) :
    lines (text.dropWhile kind) = lines text := by
  induction text with
  | nil => rfl
  | cons c rest ih =>
      cases skipped : kind c with
      | false => rw [List.dropWhile_cons_of_neg (by simp [skipped])]
      | true =>
          rw [List.dropWhile_cons_of_pos skipped, ih]
          rcases empty c skipped with blank | ends
          · rw [lines_blank blank]
          · rw [lines_break ends]

/-! ### Both ends of a text -/

/-- A text that starts with a word, if it is not empty. -/
def Fresh (text : List Char) : Prop := ∀ c ∈ text.head?, isWordCharacter c = true

/-- A text that ends with a word, if it is not empty. -/
def Sealed (text : List Char) : Prop := ∀ c ∈ text.getLast?, isWordCharacter c = true

theorem Sealed.suffix {text rest : List Char} (ends : Sealed text) (suffix : rest <:+ text) :
    Sealed rest := by
  intro c mem
  obtain ⟨before, rfl⟩ := suffix
  apply ends c
  rw [List.getLast?_append]
  simp [Option.mem_def.1 mem]

/-- A text that ends with a word has a line. -/
theorem Sealed.lines_ne_nil {text : List Char} (ends : Sealed text) (nonempty : text ≠ []) :
    lines text ≠ [] := by
  induction text with
  | nil => exact absurd rfl nonempty
  | cons c rest ih =>
      cases word : isWordCharacter c with
      | true =>
          rw [lines_of_lineWords_cons (lineWords_cons word rest)]
          exact List.cons_ne_nil _ _
      | false =>
          have others : rest ≠ [] := by
            intro same
            subst same
            have last := ends c (by simp)
            rw [word] at last
            cases last
          have step : lines (c :: rest) = lines rest := by
            cases blank : isBlank c with
            | true => exact lines_blank blank rest
            | false =>
                apply lines_break
                simpa [isWordCharacter, blank] using word
          rw [step]
          exact ih (ends.suffix (List.suffix_cons c rest)) others

/-- A text that starts with a word has a first line, which is a comment if its first character says
    so. -/
theorem Fresh.lines_eq {text : List Char} (starts : Fresh text) (nonempty : text ≠ []) :
    lineWords text ≠ [] ∧ lines text = lineWords text :: lines (pastLine text) ∧
      (isComment (lineWords text) = true ↔ text.head? = some commentMark) := by
  cases text with
  | nil => exact absurd rfl nonempty
  | cons c rest =>
      have found := lineWords_cons (starts c rfl) rest
      rw [lines_of_lineWords_cons found, found]
      exact ⟨List.cons_ne_nil _ _, rfl, by simp [isComment]⟩

theorem fresh_of_comment {text : List Char} (mark : text.head? = some commentMark) :
    Fresh text ∧ text ≠ [] := by
  constructor
  · intro c mem
    rw [mark] at mem
    cases mem
    rfl
  · intro nothing
    rw [nothing] at mark
    cases mark

end Layout

end Multitape.Description
