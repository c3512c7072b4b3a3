/-
Module: Multitape.Proofs.WrittenLines
Purpose: Rows of words that are written out and read back: their lines are the rows again, also
  after the text has been trimmed.
Main exports: Layout.Written, Layout.writeLines, Layout.lines_writeLines,
  Layout.lines_trim_writeLines
-/
import Mathlib.Data.List.Basic
import Multitape.Proofs.TextLines

namespace Multitape.Description.Layout

/-! ### Texts put together -/

theorem pieces_append {isSeparator : Char → Bool} {c : Char} (separates : isSeparator c = true)
    (text rest : List Char) :
    pieces isSeparator (text ++ c :: rest) =
      pieces isSeparator text ++ pieces isSeparator rest := by
  induction text with
  | nil => exact pieces_separator separates rest
  | cons first text ih =>
      cases parts : isSeparator first with
      | true =>
          rw [List.cons_append, pieces_separator parts, pieces_separator parts, ih]
          rfl
      | false =>
          rw [List.cons_append, pieces, pieces, ih, pieces_eq isSeparator text]
          simp [parts]

theorem pieces_of_forall_not {isSeparator : Char → Bool} {text : List Char}
    (inside : ∀ c ∈ text, isSeparator c = false) : pieces isSeparator text = [text] := by
  have whole : ∀ c ∈ text, (!isSeparator c) = true := by
    intro c mem
    rw [inside c mem]
    rfl
  rw [pieces_eq, List.takeWhile_eq_self_iff.2 whole, List.dropWhile_eq_nil_iff.2 whole]

theorem words_append {c : Char} (blank : isBlank c = true) (line rest : List Char) :
    words (line ++ c :: rest) = words line ++ words rest := by
  rw [words, pieces_append blank, List.filter_append]
  rfl

theorem words_word {word : List Char} (nonempty : word ≠ [])
    (characters : ∀ c ∈ word, isWordCharacter c = true) : words word = [word] := by
  rw [words, pieces_of_forall_not fun c mem => (isWordCharacter_iff.1 (characters c mem)).1]
  simp [nonempty]

theorem lines_append {c : Char} (ends : isLineBreak c = true) (text rest : List Char) :
    lines (text ++ c :: rest) = lines text ++ lines rest := by
  rw [lines, pieces_append ends, List.map_append, List.filter_append]
  rfl

theorem lines_line {line : List Char} (inside : ∀ c ∈ line, isLineBreak c = false)
    (nonempty : words line ≠ []) : lines line = [words line] := by
  rw [lines, pieces_of_forall_not inside]
  simp [nonempty]

/-! ### Rows -/

/-- Words that can stand on a line: there are some, and each is a row of characters of words. -/
structure Written (row : List (List Char)) : Prop where
  nonempty : row ≠ []
  words_nonempty : ∀ word ∈ row, word ≠ []
  characters : ∀ word ∈ row, ∀ c ∈ word, isWordCharacter c = true

/-- Words with a space between them. -/
def writeWords (row : List (List Char)) : List Char := [' '].intercalate row

/-- Rows of words, each on a line of its own. -/
def writeLines (rows : List (List (List Char))) : List Char :=
  rows.flatMap fun row => writeWords row ++ ['\n']

theorem writeWords_cons_cons (word next : List Char) (others : List (List Char)) :
    writeWords (word :: next :: others) = word ++ ' ' :: writeWords (next :: others) := by
  rw [writeWords, List.intercalate_cons_cons]
  simp [writeWords]

theorem writeWords_single (word : List Char) : writeWords [word] = word :=
  List.intercalate_singleton

theorem writeLines_cons (row : List (List Char)) (rows : List (List (List Char))) :
    writeLines (row :: rows) = writeWords row ++ '\n' :: writeLines rows := by
  simp [writeLines]

theorem Written.tail {word next : List Char} {others : List (List Char)}
    (written : Written (word :: next :: others)) : Written (next :: others) where
  nonempty := List.cons_ne_nil next others
  words_nonempty := by
    intro other mem
    exact written.words_nonempty other (List.mem_cons_of_mem word mem)
  characters := by
    intro other mem
    exact written.characters other (List.mem_cons_of_mem word mem)

/-- Written words are read back. -/
theorem words_writeWords {row : List (List Char)} (written : Written row) :
    words (writeWords row) = row := by
  induction row with
  | nil => exact absurd rfl written.nonempty
  | cons word others ih =>
      have first : words word = [word] :=
        words_word (written.words_nonempty word List.mem_cons_self)
          (written.characters word List.mem_cons_self)
      cases others with
      | nil => rw [writeWords_single, first]
      | cons next others =>
          rw [writeWords_cons_cons, words_append rfl, first, ih written.tail]
          rfl

theorem isLineBreak_of_mem_writeWords {row : List (List Char)} (written : Written row) :
    ∀ c ∈ writeWords row, isLineBreak c = false := by
  induction row with
  | nil => exact absurd rfl written.nonempty
  | cons word others ih =>
      have first : ∀ c ∈ word, isLineBreak c = false := by
        intro c mem
        exact isLineBreak_of_isWordCharacter (written.characters word List.mem_cons_self c mem)
      cases others with
      | nil =>
          rw [writeWords_single]
          exact first
      | cons next others =>
          rw [writeWords_cons_cons]
          intro c mem
          rcases List.mem_append.1 mem with mem | mem
          · exact first c mem
          · rcases List.mem_cons.1 mem with rfl | mem
            · rfl
            · exact ih written.tail c mem

/-- Written lines are read back. -/
theorem lines_writeLines {rows : List (List (List Char))} (written : ∀ row ∈ rows, Written row) :
    lines (writeLines rows) = rows := by
  induction rows with
  | nil => rfl
  | cons row rows ih =>
      have first : Written row := written row List.mem_cons_self
      have same := words_writeWords first
      have line : lines (writeWords row) = [row] := by
        rw [lines_line (isLineBreak_of_mem_writeWords first) (by rw [same]; exact first.nonempty),
          same]
      rw [writeLines_cons, lines_append rfl, line,
        ih fun other mem => written other (List.mem_cons_of_mem row mem)]
      rfl

/-! ### Trimming -/

/-- A text between two visible characters loses nothing, and white space around it is lost. -/
theorem trim_between {before text after : List Char}
    (blankBefore : ∀ c ∈ before, Text.isWhiteSpace c = true)
    (blankAfter : ∀ c ∈ after, Text.isWhiteSpace c = true)
    (starts : ∀ c ∈ text.head?, Text.isWhiteSpace c = false)
    (ends : ∀ c ∈ text.getLast?, Text.isWhiteSpace c = false) :
    Text.trim (before ++ text ++ after) = text := by
  have stays : ∀ part others : List Char, part ≠ [] →
      (∀ c ∈ part.head?, Text.isWhiteSpace c = false) →
        (part ++ others).dropWhile Text.isWhiteSpace = part ++ others := by
    intro part others some visible
    cases part with
    | nil => exact absurd rfl some
    | cons c rest => exact List.dropWhile_cons_of_neg (by simp [visible c rfl])
  cases text with
  | nil =>
      have nothing : (before ++ [] ++ after).dropWhile Text.isWhiteSpace = [] := by
        rw [List.append_nil, List.dropWhile_eq_nil_iff]
        exact List.forall_mem_append.2 ⟨blankBefore, blankAfter⟩
      rw [Text.trim, nothing]
      rfl
  | cons c rest =>
      have back : ∀ last ∈ (c :: rest).reverse.head?, Text.isWhiteSpace last = false := by
        rw [List.head?_reverse]
        exact ends
      have blankBehind : ∀ c ∈ after.reverse, Text.isWhiteSpace c = true :=
        fun c mem => blankAfter c (List.mem_reverse.1 mem)
      have whole := stays (c :: rest).reverse [] (by simp) back
      rw [List.append_nil] at whole
      rw [Text.trim, List.append_assoc, List.dropWhile_append_of_pos blankBefore,
        stays _ after (List.cons_ne_nil c rest) starts, List.reverse_append,
        List.dropWhile_append_of_pos blankBehind, whole, List.reverse_reverse]

/-- A text between two visible characters loses no more than the line break after it. -/
theorem trim_append_break {text : List Char}
    (starts : ∀ c ∈ text.head?, Text.isWhiteSpace c = false)
    (ends : ∀ c ∈ text.getLast?, Text.isWhiteSpace c = false) :
    Text.trim (text ++ ['\n']) = text :=
  @trim_between [] text ['\n'] (fun _ mem => absurd mem List.not_mem_nil)
    (List.forall_mem_singleton.2 rfl) starts ends

theorem exists_writeWords_cons (word : List Char) (others : List (List Char)) :
    ∃ after, writeWords (word :: others) = word ++ after := by
  cases others with
  | nil => exact ⟨[], by rw [writeWords_single, List.append_nil]⟩
  | cons next others => exact ⟨_, writeWords_cons_cons word next others⟩

theorem exists_writeWords_append (words : List (List Char)) (word : List Char) :
    ∃ before, writeWords (words ++ [word]) = before ++ word := by
  induction words with
  | nil => exact ⟨[], writeWords_single word⟩
  | cons first words ih =>
      obtain ⟨before, same⟩ := ih
      obtain ⟨next, others, split⟩ := List.exists_cons_of_ne_nil
        (show words ++ [word] ≠ [] by simp)
      refine ⟨first ++ ' ' :: before, ?_⟩
      rw [List.cons_append, split, writeWords_cons_cons, ← split, same, List.append_assoc]
      rfl

/-- Written lines start with their first word. -/
theorem exists_mem_head?_writeLines {rows : List (List (List Char))}
    (written : ∀ row ∈ rows, Written row) {c : Char} (mem : c ∈ (writeLines rows).head?) :
    ∃ row ∈ rows.head?, ∃ word ∈ row.head?, c ∈ word.head? := by
  cases rows with
  | nil => cases mem
  | cons row rows =>
      have first := written row List.mem_cons_self
      obtain ⟨word, others, rfl⟩ := List.exists_cons_of_ne_nil first.nonempty
      obtain ⟨d, rest, rfl⟩ := List.exists_cons_of_ne_nil
        (first.words_nonempty word List.mem_cons_self)
      obtain ⟨after, same⟩ := exists_writeWords_cons (d :: rest) others
      rw [writeLines_cons, same] at mem
      exact ⟨_, rfl, _, rfl, mem⟩

/-- Written lines are read back from the trimmed text, if its first and its last character are
    visible. -/
theorem lines_trim_writeLines {rows : List (List (List Char))} (written : ∀ row ∈ rows, Written row)
    (starts : ∀ row ∈ rows.head?, ∀ word ∈ row.head?, ∀ c ∈ word.head?, Text.isWhiteSpace c = false)
    (ends : ∀ row ∈ rows.getLast?, ∀ word ∈ row.getLast?, ∀ c ∈ word.getLast?,
      Text.isWhiteSpace c = false) : lines (Text.trim (writeLines rows)) = rows := by
  rcases List.eq_nil_or_concat' rows with rfl | ⟨front, row, rfl⟩
  · rfl
  have last : Written row := written row (by simp)
  rcases List.eq_nil_or_concat' row with rfl | ⟨words, word, rfl⟩
  · exact absurd rfl last.nonempty
  have nonempty : word ≠ [] := last.words_nonempty word (by simp)
  obtain ⟨before, same⟩ := exists_writeWords_append words word
  have text :
      writeLines (front ++ [words ++ [word]]) = (writeLines front ++ before ++ word) ++ ['\n'] := by
    simp [writeLines, same]
  have head : ∀ c ∈ (writeLines front ++ before ++ word).head?, Text.isWhiteSpace c = false := by
    intro c mem
    have inText : c ∈ (writeLines (front ++ [words ++ [word]])).head? := by
      rw [text, List.head?_append, Option.mem_def.1 mem]
      rfl
    obtain ⟨row, rowMem, first, firstMem, charMem⟩ := exists_mem_head?_writeLines written inText
    exact starts row rowMem first firstMem c charMem
  have tail : ∀ c ∈ (writeLines front ++ before ++ word).getLast?, Text.isWhiteSpace c = false := by
    intro c mem
    rw [List.getLast?_append_of_ne_nil _ nonempty] at mem
    exact ends (words ++ [word]) (by simp) word (by simp) c mem
  rw [text, trim_append_break head tail]
  have whole := lines_writeLines written
  rw [text, lines_append rfl, lines_nil, List.append_nil] at whole
  exact whole

end Multitape.Description.Layout
