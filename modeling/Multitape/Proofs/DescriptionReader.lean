/-
Module: Multitape.Proofs.DescriptionReader
Purpose: What the reader does at a place of a text, told in the lines and words from that place on.
Main exports: Layout.fits, Cursor.words_spec, Cursor.exists_lineBreaks?, Cursor.skipComments_spec,
  Cursor.exists_nextLine?, Line.row, readNextLine?_spec, readLines_spec, readEnd_readLines, splitCount,
  splitCount_readLines
-/
import Mathlib.Data.List.DropRight
import Multitape.Proofs.TextLines

namespace Multitape.Description

open Layout

/-- Whether a word is of a kind. -/
def Layout.fits : Wanted → List Char → Bool
  | .token, _ => true
  | .symbol, word => word.length == 1

theorem takeWhile_fits_token (row : List (List Char)) : row.takeWhile (fits .token) = row :=
  List.takeWhile_eq_self_iff.2 fun _ _ => rfl

theorem dropWhile_fits_token (row : List (List Char)) : row.dropWhile (fits .token) = [] :=
  List.dropWhile_eq_nil_iff.2 fun _ _ => rfl

namespace Cursor

/-! ### Words of a line -/

theorem skipBlanks_rest (cursor : Cursor) :
    cursor.skipBlanks.rest = cursor.rest.dropWhile isBlank := rfl

/-- Where no words are left, none is found. -/
theorem wanted?_of_lineWords_nil {cursor : Cursor} (wordless : lineWords cursor.rest = [])
    (wanted : Wanted) : cursor.skipBlanks.wanted? wanted = none := by
  have noWord : cursor.skipBlanks.rest.takeWhile isWordCharacter = [] := by
    rw [skipBlanks_rest, dropWhile_isBlank_of_lineWords wordless]
    cases past : pastLine cursor.rest with
    | nil => rfl
    | cons c rest => simp [isWordCharacter, isLineBreak_of_pastLine past]
  have noToken : cursor.skipBlanks.token? = none := by
    unfold token?
    rw [noWord]
  cases wanted <;> simp [wanted?, noToken]

/-- The first word that is left is found if it fits, and after it stand the others. -/
theorem wanted?_of_lineWords_cons {cursor : Cursor} {word : List Char} {others : List (List Char)}
    (found : lineWords cursor.rest = word :: others) (wanted : Wanted) :
    ∃ next : Cursor, lineWords next.rest = others ∧ pastLine next.rest = pastLine cursor.rest ∧
      next.rest.length < cursor.rest.length ∧
      cursor.skipBlanks.wanted? wanted =
        if fits wanted word then some (⟨cursor.skipBlanks.position, word⟩, next) else none := by
  rcases lineWords_cases cursor.rest with ⟨wordless, -⟩ | ⟨c, rest, front, character, first⟩
  · rw [wordless] at found
    cases found
  · rw [found] at first
    obtain ⟨rfl, rfl⟩ := List.cons.inj first
    let next := cursor.skipBlanks.skip isWordCharacter
    have behind : next.rest = rest.dropWhile isWordCharacter := by
      show (cursor.rest.dropWhile isBlank).dropWhile isWordCharacter = _
      rw [front, List.dropWhile_cons_of_pos character]
    have token : cursor.skipBlanks.token? =
        some (⟨cursor.skipBlanks.position, c :: rest.takeWhile isWordCharacter⟩, next) := by
      unfold token?
      rw [skipBlanks_rest, front, List.takeWhile_cons_of_pos character]
    refine ⟨next, by rw [behind], ?_, ?_, ?_⟩
    · rw [behind, ← pastLine_dropWhile (fun c => isLineBreak_of_isBlank) cursor.rest, front,
        pastLine_cons (isLineBreak_of_isWordCharacter character)]
      exact pastLine_dropWhile (fun c => isLineBreak_of_isWordCharacter) rest
    · have lower := (List.dropWhile_suffix isWordCharacter (l := rest)).length_le
      have upper := (List.dropWhile_suffix isBlank (l := cursor.rest)).length_le
      rw [front, List.length_cons] at upper
      rw [behind]
      exact Nat.lt_of_le_of_lt lower upper
    · cases wanted <;> simp [wanted?, token, fits]

theorem wordsWithin_of_lineWords_nil {cursor : Cursor} (wordless : lineWords cursor.rest = [])
    (wanted : Wanted) (fuel : Nat) : cursor.wordsWithin wanted fuel = ([], cursor) := by
  cases fuel with
  | zero => rfl
  | succ fuel => rw [wordsWithin, wanted?_of_lineWords_nil wordless]

/-- The words that are read are those of the line up to the first that does not fit. -/
theorem wordsWithin_spec (wanted : Wanted) {fuel : Nat} {cursor : Cursor}
    (enough : (firstLine cursor.rest).length ≤ fuel) :
    (cursor.wordsWithin wanted fuel).1.map Token.word =
        (lineWords cursor.rest).takeWhile (fits wanted) ∧
      lineWords (cursor.wordsWithin wanted fuel).2.rest =
        (lineWords cursor.rest).dropWhile (fits wanted) ∧
      pastLine (cursor.wordsWithin wanted fuel).2.rest = pastLine cursor.rest := by
  induction fuel generalizing cursor with
  | zero =>
      have wordless : lineWords cursor.rest = [] := by
        rw [lineWords, List.eq_nil_of_length_eq_zero (Nat.le_zero.1 enough), words_nil]
      simp [wordsWithin, wordless]
  | succ fuel ih =>
      rw [wordsWithin]
      cases found : lineWords cursor.rest with
      | nil => simp [wanted?_of_lineWords_nil found, found]
      | cons word others =>
          obtain ⟨next, left, past, shorter, step⟩ := wanted?_of_lineWords_cons found wanted
          rw [step]
          cases good : fits wanted word with
          | false => simp [found, good]
          | true =>
              have less : (firstLine next.rest).length ≤ fuel := by
                have whole := length_firstLine_add next.rest
                have wholeToo := length_firstLine_add cursor.rest
                rw [past] at whole
                omega
              obtain ⟨tokens, last, same⟩ := ih less
              simp [good, tokens, last, same, left, past]

theorem words_spec (wanted : Wanted) (cursor : Cursor) :
    (cursor.words wanted).1.map Token.word = (lineWords cursor.rest).takeWhile (fits wanted) ∧
      lineWords (cursor.words wanted).2.rest = (lineWords cursor.rest).dropWhile (fits wanted) ∧
      pastLine (cursor.words wanted).2.rest = pastLine cursor.rest :=
  wordsWithin_spec wanted (Nat.le_refl _)

/-- Names are read up to the end of the line. -/
theorem words_token (cursor : Cursor) :
    (cursor.words .token).1.map Token.word = lineWords cursor.rest ∧
      lineWords (cursor.words .token).2.rest = [] ∧
      pastLine (cursor.words .token).2.rest = pastLine cursor.rest := by
  obtain ⟨tokens, left, past⟩ := cursor.words_spec .token
  rw [takeWhile_fits_token] at tokens
  rw [dropWhile_fits_token] at left
  exact ⟨tokens, left, past⟩

/-! ### Ends of lines -/

theorem lineBreak?_eq_none {cursor : Cursor}
    (inside : ∀ c ∈ cursor.rest.head?, isLineBreak c = false) :
    cursor.lineBreak? = none := by
  unfold lineBreak?
  split <;> rename_i here
  · exact absurd (inside _ (by rw [here]; rfl)) (by decide)
  · exact absurd (inside _ (by rw [here]; rfl)) (by decide)
  · exact absurd (inside _ (by rw [here]; rfl)) (by decide)
  · rfl

/-- A carriage return takes the line feed after it along, which adds no line. -/
theorem exists_lineBreak? {cursor : Cursor} {c : Char} {rest : List Char}
    (here : cursor.rest = c :: rest) (ends : isLineBreak c = true) :
    ∃ next, cursor.lineBreak? = some next ∧ lines next.rest = lines rest ∧ next.rest <:+ rest := by
  unfold lineBreak?
  rw [here]
  rcases isLineBreak_iff.1 ends with rfl | rfl
  · exact ⟨_, rfl, rfl, List.suffix_refl rest⟩
  · split
    · rename_i both
      cases both
      exact ⟨_, rfl, (lines_break rfl _).symm, List.suffix_cons _ _⟩
    · rename_i single
      cases single
      exact ⟨_, rfl, rfl, List.suffix_refl _⟩
    · rename_i feed
      cases feed
    · rename_i noReturn _
      exact absurd rfl (noReturn rest)

/-- What stands behind blanks and line breaks. -/
theorem fresh_skip (text : List Char) :
    Fresh (text.dropWhile fun c => isBlank c || isLineBreak c) := by
  intro c mem
  cases front : text.dropWhile (fun c => isBlank c || isLineBreak c) with
  | nil => simp [front] at mem
  | cons first rest =>
      obtain rfl : first = c := by simpa [front] using mem
      simpa [isWordCharacter] using not_of_dropWhile front

/-- Behind the last word of a line, the next line is reached. -/
theorem exists_lineBreaks? {cursor : Cursor} (wordless : lineWords cursor.rest = [])
    (more : pastLine cursor.rest ≠ []) :
    ∃ next, cursor.lineBreaks? = some next ∧ lines next.rest = lines (pastLine cursor.rest) ∧
      Fresh next.rest ∧ next.rest <:+ pastLine cursor.rest := by
  obtain ⟨c, rest, past⟩ := List.exists_cons_of_ne_nil more
  have ends := isLineBreak_of_pastLine past
  have here : cursor.skipBlanks.rest = c :: rest := by
    rw [skipBlanks_rest, dropWhile_isBlank_of_lineWords wordless, past]
  obtain ⟨next, step, same, suffix⟩ := exists_lineBreak? here ends
  refine ⟨_, by rw [lineBreaks?, step]; rfl, ?_, fresh_skip next.rest, ?_⟩
  · show lines (next.rest.dropWhile fun c => isBlank c || isLineBreak c) = _
    rw [lines_dropWhile (fun c => by simp), same, past, lines_break ends]
  · rw [past]
    exact (List.dropWhile_suffix _).trans (suffix.trans (List.suffix_cons c rest))

/-- Before a word, and at the end of the text, no line ends. -/
theorem lineBreaks?_eq_none {cursor : Cursor}
    (last : lineWords cursor.rest ≠ [] ∨ pastLine cursor.rest = []) :
    cursor.lineBreaks? = none := by
  rw [lineBreaks?, lineBreak?_eq_none, Option.map_none]
  intro c mem
  rw [skipBlanks_rest] at mem
  rcases lineWords_cases cursor.rest with ⟨wordless, blank⟩ | ⟨first, rest, front, character, -⟩
  · rcases last with found | past
    · exact absurd wordless found
    · rw [blank, past] at mem
      cases mem
  · rw [front] at mem
    cases mem
    exact isLineBreak_of_isWordCharacter character

/-! ### Comments -/

theorem pastLine_dropWhile_isBlank (text : List Char) :
    (pastLine text).dropWhile isBlank = pastLine text := by
  cases past : pastLine text with
  | nil => rfl
  | cons c rest =>
      apply List.dropWhile_cons_of_neg
      intro blank
      have inside := isLineBreak_of_isBlank blank
      rw [isLineBreak_of_pastLine past] at inside
      cases inside

/-- Where the reader stands behind a comment, or behind no more than blanks. -/
def pastComment (text : List Char) : List Char :=
  if text.head? = some commentMark then pastLine text else text

theorem pastComment_suffix (text : List Char) : pastComment text <:+ text := by
  unfold pastComment
  split
  · exact List.dropWhile_suffix _
  · exact List.suffix_refl text

theorem skipComment_rest (cursor : Cursor) :
    cursor.skipBlanks.skipComment.skipBlanks.rest =
      pastComment (cursor.rest.dropWhile isBlank) := by
  unfold skipComment pastComment
  rw [skipBlanks_rest cursor]
  split
  · exact pastLine_dropWhile_isBlank _
  · exact List.dropWhile_idempotent isBlank _

/-- What is gone over is a line with a comment, or nothing. -/
theorem exists_lines_pastComment (text : List Char) :
    ∃ comments, (∀ line ∈ comments, isComment line = true) ∧
      lines text = comments ++ lines (pastComment text) := by
  unfold pastComment
  split
  · rename_i mark
    obtain ⟨starts, nonempty⟩ := fresh_of_comment mark
    obtain ⟨-, same, comment⟩ := starts.lines_eq nonempty
    refine ⟨[lineWords text], ?_, same⟩
    intro line mem
    rw [List.mem_singleton.1 mem]
    exact comment.2 mark
  · exact ⟨[], by simp, rfl⟩

/-- No line ends behind the comment, so there is a word, or a comment that is the last line, or
    nothing. -/
theorem fresh_of_pastComment {text : List Char} (blankless : text.dropWhile isBlank = text)
    (inside : ∀ c ∈ (pastComment text).head?, isLineBreak c = false) :
    Fresh text ∧ (text.head? = some commentMark → pastLine text = []) := by
  constructor
  · intro c mem
    obtain ⟨rest, rfl⟩ := List.head?_eq_some_iff.1 mem
    have visible : isBlank c = false := by
      cases blank : isBlank c with
      | false => rfl
      | true =>
          rw [List.dropWhile_cons_of_pos blank] at blankless
          have shorter := (List.dropWhile_suffix isBlank (l := rest)).length_le
          rw [blankless] at shorter
          exact absurd shorter (Nat.not_succ_le_self _)
    apply isWordCharacter_iff.2 ⟨visible, ?_⟩
    by_cases mark : c = commentMark
    · rw [mark]
      rfl
    · apply inside c
      simp [pastComment, mark]
  · intro mark
    rw [pastComment, if_pos mark] at inside
    cases past : pastLine text with
    | nil => rfl
    | cons c rest =>
        have ends := isLineBreak_of_pastLine past
        rw [inside c (by rw [past]; rfl)] at ends
        cases ends

/-- The lines that are gone over are comments. The first that is left starts with a word; if it is a
    comment as well, it is the last line. -/
theorem skipCommentsWithin_spec {fuel : Nat} {cursor : Cursor}
    (enough : cursor.rest.length ≤ fuel) :
    ∃ comments, (∀ line ∈ comments, isComment line = true) ∧
      lines cursor.rest = comments ++ lines (cursor.skipCommentsWithin fuel).rest ∧
      Fresh (cursor.skipCommentsWithin fuel).rest ∧
      (cursor.skipCommentsWithin fuel).rest <:+ cursor.rest ∧
      ((cursor.skipCommentsWithin fuel).rest.head? = some commentMark →
        pastLine (cursor.skipCommentsWithin fuel).rest = []) := by
  induction fuel generalizing cursor with
  | zero =>
      have nothing : cursor.rest = [] := List.eq_nil_of_length_eq_zero (Nat.le_zero.1 enough)
      have stays : (cursor.skipCommentsWithin 0).rest = [] := by
        rw [skipCommentsWithin, skipBlanks_rest, nothing]
        rfl
      rw [stays, nothing]
      exact ⟨[], by simp, rfl, by simp [Fresh], List.suffix_refl [], by simp⟩
  | succ fuel ih =>
      obtain ⟨comments, all, before⟩ := exists_lines_pastComment (cursor.rest.dropWhile isBlank)
      rw [lines_dropWhile (fun c => Or.inl)] at before
      rw [skipCommentsWithin]
      by_cases inside :
          ∀ c ∈ (pastComment (cursor.rest.dropWhile isBlank)).head?, isLineBreak c = false
      · rw [lineBreak?_eq_none (by rw [skipComment_rest]; exact inside)]
        obtain ⟨starts, last⟩ := fresh_of_pastComment (List.dropWhile_idempotent isBlank _) inside
        exact ⟨[], by simp, (lines_dropWhile (fun c => Or.inl) _).symm, starts,
          List.dropWhile_suffix isBlank, last⟩
      · simp only [not_forall, Bool.not_eq_false] at inside
        obtain ⟨c, mem, ends⟩ := inside
        obtain ⟨rest, behind⟩ := List.head?_eq_some_iff.1 mem
        rw [← skipComment_rest] at behind
        obtain ⟨next, step, same, suffix⟩ := exists_lineBreak? behind ends
        rw [skipComment_rest] at behind
        have inText : next.rest <:+ rest ∧ c :: rest <:+ cursor.rest := by
          refine ⟨suffix, ?_⟩
          rw [← behind]
          exact (pastComment_suffix _).trans (List.dropWhile_suffix isBlank)
        have less : next.rest.length ≤ fuel := by
          have lower := inText.1.length_le
          have whole := inText.2.length_le
          rw [List.length_cons] at whole
          omega
        obtain ⟨others, othersAll, after, starts, within, last⟩ := ih less
        rw [step]
        refine ⟨comments ++ others, ?_, ?_, starts, ?_, last⟩
        · intro line mem
          rcases List.mem_append.1 mem with mem | mem
          · exact all line mem
          · exact othersAll line mem
        · rw [before, behind, lines_break ends, ← same, after, List.append_assoc]
        · exact within.trans (inText.1.trans ((List.suffix_cons c rest).trans inText.2))

theorem skipComments_spec (cursor : Cursor) :
    ∃ comments, (∀ line ∈ comments, isComment line = true) ∧
      lines cursor.rest = comments ++ lines cursor.skipComments.rest ∧
      Fresh cursor.skipComments.rest ∧ cursor.skipComments.rest <:+ cursor.rest ∧
      (cursor.skipComments.rest.head? = some commentMark →
        pastLine cursor.skipComments.rest = []) :=
  skipCommentsWithin_spec (Nat.le_refl _)

/-! ### The next line -/

theorem nextLine?_eq_none {cursor : Cursor} (wordless : lineWords cursor.rest = [])
    (last : pastLine cursor.rest = []) : cursor.nextLine? = none := by
  rw [nextLine?, lineBreak?_eq_none, Option.map_none]
  rw [skipBlanks_rest, dropWhile_isBlank_of_lineWords wordless, last]
  simp

/-- Behind the last word of a line, comments are gone over. The first line that is left is a comment only if it
    is the last one. -/
theorem exists_nextLine? {cursor : Cursor} (wordless : lineWords cursor.rest = [])
    (more : pastLine cursor.rest ≠ []) :
    ∃ first comments, cursor.nextLine? = some first ∧ (∀ row ∈ comments, isComment row = true) ∧
      lines (pastLine cursor.rest) = comments ++ lines first.rest ∧ Fresh first.rest ∧
      first.rest.length < (pastLine cursor.rest).length ∧
      (first.rest.head? = some commentMark → pastLine first.rest = []) := by
  obtain ⟨c, rest, past⟩ := List.exists_cons_of_ne_nil more
  have ends := isLineBreak_of_pastLine past
  have here : cursor.skipBlanks.rest = c :: rest := by
    rw [skipBlanks_rest, dropWhile_isBlank_of_lineWords wordless, past]
  obtain ⟨next, step, same, suffix⟩ := exists_lineBreak? here ends
  obtain ⟨comments, all, before, starts, within, last⟩ := next.skipComments_spec
  refine ⟨next.skipComments, comments, by rw [nextLine?, step]; rfl, all, ?_, starts, ?_, last⟩
  · rw [past, lines_break ends, ← same, before]
  · rw [past, List.length_cons]
    exact Nat.lt_succ_of_le (within.trans suffix).length_le

theorem endsLine_iff {cursor : Cursor} : cursor.endsLine = true ↔ lineWords cursor.rest = [] := by
  rw [endsLine, skipBlanks_rest]
  rcases lineWords_cases cursor.rest with ⟨wordless, blank⟩ | ⟨c, rest, front, character, found⟩
  · rw [blank]
    refine iff_of_true ?_ wordless
    cases past : pastLine cursor.rest with
    | nil => rfl
    | cons c rest => exact isLineBreak_of_pastLine past
  · rw [front, found]
    simp [isLineBreak_of_isWordCharacter character]

/-- Where only comments are left, the text can be closed. -/
theorem closesWithin_of_comments {fuel : Nat} {cursor : Cursor} (enough : cursor.rest.length ≤ fuel)
    (comments : ∀ row ∈ lines cursor.rest, isComment row = true) :
    cursor.closesWithin fuel = true := by
  induction fuel generalizing cursor with
  | zero =>
      rw [closesWithin, skipBlanks_rest, List.eq_nil_of_length_eq_zero (Nat.le_zero.1 enough)]
      rfl
  | succ fuel ih =>
      have here := cursor.skipBlanks_rest
      rw [show lines cursor.rest = lines cursor.skipBlanks.rest from
        (lines_dropWhile (fun c => Or.inl) cursor.rest).symm] at comments
      have within : cursor.skipBlanks.rest.length ≤ fuel + 1 :=
        Nat.le_trans (List.dropWhile_suffix _).length_le enough
      rw [closesWithin]
      -- Behind blanks stands nothing, a line break, or the mark of a comment.
      cases front : cursor.skipBlanks.rest with
      | nil => simp [lineBreak?_eq_none, front]
      | cons c rest =>
          rw [front] at comments within
          have shorter : rest.length ≤ fuel := Nat.le_of_succ_le_succ within
          cases ends : isLineBreak c with
          | true =>
              obtain ⟨next, step, same, suffix⟩ := exists_lineBreak? front ends
              rw [step]
              refine ih (Nat.le_trans suffix.length_le shorter) fun row mem => comments row ?_
              rwa [lines_break ends, ← same]
          | false =>
              have word : isWordCharacter c = true :=
                isWordCharacter_iff.2 ⟨not_of_dropWhile (here.symm.trans front), ends⟩
              have starts : Fresh (c :: rest) := by
                simpa [Fresh] using word
              obtain ⟨-, whole, comment⟩ := starts.lines_eq (List.cons_ne_nil c rest)
              rw [whole, List.forall_mem_cons] at comments
              have mark := comment.1 comments.1
              have behind : cursor.skipBlanks.skipComment.rest = pastLine rest := by
                rw [skipComment, front, if_pos mark, skip, front]
                exact pastLine_cons ends rest
              rw [lineBreak?_eq_none (by rw [front]; simpa using ends), if_pos mark]
              refine ih ?_ fun row mem => comments.2 row ?_
              · rw [behind]
                exact Nat.le_trans (List.dropWhile_suffix _).length_le shorter
              · rwa [pastLine_cons ends, ← behind]

end Cursor

/-! ### Lines after the header -/

/-- The words of a line without their places. -/
def Line.row (line : Line) : List (List Char) := line.words.map Token.word

theorem readLine_spec (cursor : Cursor) :
    (readLine cursor).1.row = lineWords cursor.rest ∧ lineWords (readLine cursor).2.rest = [] ∧
      pastLine (readLine cursor).2.rest = pastLine cursor.rest := by
  obtain ⟨tokens, left, past⟩ := cursor.words_token
  unfold readLine
  split <;> rename_i found <;> rw [found] at tokens left past <;> exact ⟨tokens, left, past⟩

/-- The next line that is no comment is read, if there is one. -/
theorem readNextLine?_spec {cursor : Cursor} (wordless : lineWords cursor.rest = []) :
    (readNextLine? cursor = none ∧ ∀ row ∈ lines (pastLine cursor.rest), isComment row = true) ∨
      ∃ line next comments, readNextLine? cursor = some (line, next) ∧
        lines (pastLine cursor.rest) = comments ++ line.row :: lines (pastLine next.rest) ∧
        (∀ row ∈ comments, isComment row = true) ∧ isComment line.row = false ∧
        lineWords next.rest = [] ∧
        (pastLine next.rest).length < (pastLine cursor.rest).length := by
  unfold readNextLine?
  by_cases past : pastLine cursor.rest = []
  · rw [Cursor.nextLine?_eq_none wordless past, past]
    exact .inl ⟨rfl, by simp⟩
  · obtain ⟨first, comments, step, all, before, starts, shorter, last⟩ :=
      Cursor.exists_nextLine? wordless past
    obtain ⟨row, left, behind⟩ := readLine_spec first
    rw [step, before]
    dsimp only
    by_cases nothing : first.rest = []
    · rw [nothing] at row ⊢
      refine .inl ⟨?_, by simpa using all⟩
      generalize readLine first = read at row
      obtain ⟨⟨tokens, stop⟩, place⟩ := read
      obtain rfl : tokens = [] := List.map_eq_nil_iff.1 row
      rfl
    · obtain ⟨nonempty, whole, comment⟩ := starts.lines_eq nothing
      rw [whole]
      by_cases mark : first.rest.head? = some commentMark
      · -- The comment that is left is the last line.
        rw [if_pos mark, last mark]
        refine .inl ⟨rfl, fun line mem => ?_⟩
        rcases List.mem_append.1 mem with mem | mem
        · exact all line mem
        · rw [List.mem_singleton.1 mem]
          exact comment.2 mark
      · have found : (readLine first).1.words ≠ [] := fun nothing => nonempty (by
          rw [← row, Line.row, nothing, List.map_nil])
        have visible : isComment (lineWords first.rest) = false := by
          rw [← Bool.not_eq_true, comment]
          exact mark
        rw [if_neg mark]
        refine .inr ⟨(readLine first).1, (readLine first).2, comments, ?_, ?_, all, ?_, left, ?_⟩
        · split
          · rename_i stop place read
            rw [read] at found
            exact absurd rfl found
          · rfl
        · rw [row, behind]
        · rw [row]
          exact visible
        · rw [behind]
          exact Nat.lt_of_le_of_lt (List.dropWhile_suffix _).length_le shorter

section Lines

variable {cursor next : Cursor} {line : Line}

theorem readLinesWithin_of_none (stops : readNextLine? cursor = none) (fuel : Nat) :
    readLinesWithin fuel cursor = ([], cursor) := by
  cases fuel with
  | zero => rfl
  | succ fuel => rw [readLinesWithin, stops]

/-- With enough fuel all lines are read, and more fuel reads no other ones. -/
theorem readLinesWithin_congr {fuel more : Nat} (wordless : lineWords cursor.rest = [])
    (enough : (pastLine cursor.rest).length ≤ fuel) (also : (pastLine cursor.rest).length ≤ more) :
    readLinesWithin fuel cursor = readLinesWithin more cursor := by
  induction fuel generalizing more cursor with
  | zero =>
      rcases readNextLine?_spec wordless with
        ⟨stops, -⟩ | ⟨line, next, comments, -, -, -, -, -, shorter⟩
      · rw [readLinesWithin_of_none stops, readLinesWithin_of_none stops]
      · omega
  | succ fuel ih =>
      rcases readNextLine?_spec wordless with
        ⟨stops, -⟩ | ⟨line, next, comments, step, -, -, -, left, shorter⟩
      · rw [readLinesWithin_of_none stops, readLinesWithin_of_none stops]
      · obtain ⟨more, rfl⟩ : ∃ less, more = less + 1 := ⟨more - 1, by omega⟩
        have same : readLinesWithin fuel next = readLinesWithin more next :=
          ih left (by omega) (by omega)
        rw [readLinesWithin, readLinesWithin, step]
        dsimp only
        rw [same]

theorem readLines_of_none (stops : readNextLine? cursor = none) : readLines cursor = ([], cursor) :=
  readLinesWithin_of_none stops _

theorem readLines_of_some (wordless : lineWords cursor.rest = [])
    (step : readNextLine? cursor = some (line, next)) :
    readLines cursor = (line :: (readLines next).1, (readLines next).2) := by
  rcases readNextLine?_spec wordless with
    ⟨stops, -⟩ | ⟨other, place, comments, found, -, -, -, left, shorter⟩
  · rw [step] at stops
    cases stops
  · obtain ⟨rfl, rfl⟩ := Prod.mk.inj (Option.some.inj (step.symm.trans found))
    have whole : (pastLine cursor.rest).length ≤ cursor.rest.length :=
      (List.dropWhile_suffix _).length_le
    obtain ⟨fuel, positive⟩ : ∃ fuel, cursor.rest.length = fuel + 1 :=
      ⟨cursor.rest.length - 1, by omega⟩
    have same : readLinesWithin fuel next = readLines next :=
      readLinesWithin_congr left (by omega) (List.dropWhile_suffix _).length_le
    rw [readLines, positive, readLinesWithin, step]
    dsimp only
    rw [same]

/-- The lines that are read are those behind the first, without comments, and behind them only comments are
    left. -/
theorem readLines_spec (wordless : lineWords cursor.rest = []) :
    (readLines cursor).1.map Line.row = (lines (pastLine cursor.rest)).filter (!isComment ·) ∧
      lineWords (readLines cursor).2.rest = [] ∧
      ∀ row ∈ lines (pastLine (readLines cursor).2.rest), isComment row = true := by
  -- Every line that is read leaves less of the text behind it, so the fuel need not be followed.
  induction size : (pastLine cursor.rest).length using Nat.strongRecOn generalizing cursor with
  | ind size ih =>
      rcases readNextLine?_spec wordless with
        ⟨stops, all⟩ | ⟨line, next, comments, step, before, all, visible, left, shorter⟩
      · rw [readLines_of_none stops]
        exact ⟨(List.filter_eq_nil_iff.2 (by simpa using all)).symm, wordless, all⟩
      · obtain ⟨rows, others⟩ := ih _ (size ▸ shorter) left rfl
        have skipped : comments.filter (!isComment ·) = [] :=
          List.filter_eq_nil_iff.2 (by simpa using all)
        rw [readLines_of_some wordless step, before, List.filter_append, skipped, List.nil_append,
          List.filter_cons_of_pos (by simp [visible]), List.map_cons, rows]
        exact ⟨rfl, others⟩

/-- Behind the lines that are read, the text can be closed. -/
theorem readEnd_readLines (wordless : lineWords cursor.rest = []) :
    readEnd (readLines cursor).2 = .ok () := by
  obtain ⟨-, left, comments⟩ := readLines_spec wordless
  refine if_pos (Cursor.closesWithin_of_comments (Nat.le_refl _) ?_)
  rw [lines_eq, left]
  exact comments

end Lines

/-! ### The number of tapes -/

/-- The numeral that a line holds alone. -/
def Line.count? (line : Line) : Option Token :=
  match line.words with
  | [token] => if token.word.all Char.isDigit then some token else none
  | _ => none

/-- Part the number of tapes from the rules. It is there if the first line holds a numeral alone. -/
def splitCount : List Line → Option Token × List Line
  | [] => (none, [])
  | line :: lines =>
      match line.count? with
      | some count => (some count, lines)
      | none => (none, line :: lines)

/-- A word of digits ends where its digits do. -/
theorem skip_isWordCharacter {cursor : Cursor}
    (digits : ∀ c ∈ cursor.rest.takeWhile isWordCharacter, c.isDigit = true) :
    cursor.rest.takeWhile isWordCharacter = cursor.rest.takeWhile Char.isDigit ∧
      cursor.skip isWordCharacter = cursor.skip Char.isDigit := by
  obtain ⟨position, rest⟩ := cursor
  suffices same : rest.takeWhile isWordCharacter = rest.takeWhile Char.isDigit ∧
      rest.dropWhile isWordCharacter = rest.dropWhile Char.isDigit from
    ⟨same.1, by rw [Cursor.skip, Cursor.skip, same.1, same.2]⟩
  dsimp only at digits
  induction rest with
  | nil => exact ⟨rfl, rfl⟩
  | cons c rest ih =>
      cases word : isWordCharacter c with
      | true =>
          rw [List.takeWhile_cons_of_pos word, List.forall_mem_cons] at digits
          obtain ⟨same, left⟩ := ih digits.2
          simp [word, digits.1, same, left]
      | false =>
          have noDigit : c.isDigit = false := by
            cases digit : c.isDigit with
            | false => rfl
            | true => rw [isWordCharacter_of_isDigit digit] at word; cases word
          simp [word, noDigit]

/-- Digits that end their line are a whole word. -/
theorem isDigit_of_mem_takeWhile {text : List Char}
    (ends : lineWords (text.dropWhile Char.isDigit) = []) :
    ∀ c ∈ text.takeWhile isWordCharacter, c.isDigit = true := by
  induction text with
  | nil => simp
  | cons c rest ih =>
      cases digit : c.isDigit with
      | true =>
          rw [List.dropWhile_cons_of_pos digit] at ends
          rw [List.takeWhile_cons_of_pos (isWordCharacter_of_isDigit digit)]
          exact List.forall_mem_cons.2 ⟨digit, ih ends⟩
      | false =>
          rw [List.dropWhile_cons_of_neg (by simp [digit])] at ends
          have noWord : isWordCharacter c = false := by
            cases word : isWordCharacter c with
            | false => rfl
            | true => rw [lineWords_cons word] at ends; cases ends
          simp [noWord]

/-- The first word of a line is read where it stands, and if it is alone the place behind it is reached. -/
theorem exists_words_of_fresh {cursor : Cursor} (starts : Fresh cursor.rest) (nonempty : cursor.rest ≠ []) :
    ∃ tokens last,
      cursor.words .token = (⟨cursor.position, cursor.rest.takeWhile isWordCharacter⟩ :: tokens, last) ∧
        tokens.map Token.word = lineWords (cursor.skip isWordCharacter).rest ∧
        (lineWords (cursor.skip isWordCharacter).rest = [] → last = cursor.skip isWordCharacter) := by
  obtain ⟨position, rest⟩ := cursor
  obtain ⟨c, rest, rfl⟩ := List.exists_cons_of_ne_nil nonempty
  have word : isWordCharacter c = true := starts c rfl
  obtain ⟨visible, inside⟩ := isWordCharacter_iff.1 word
  have read : (Cursor.mk position (c :: rest)).skipBlanks.wanted? .token =
      some (⟨position, (c :: rest).takeWhile isWordCharacter⟩,
        (Cursor.mk position (c :: rest)).skip isWordCharacter) := by
    simp [Cursor.wanted?, Cursor.token?, Cursor.skipBlanks, Cursor.skip, visible, word]
  let after := (Cursor.mk position (c :: rest)).skip isWordCharacter
  have enough : (firstLine after.rest).length ≤ (firstLine rest).length := by
    rw [show firstLine after.rest = (firstLine (c :: rest)).dropWhile (!isBlank ·) from
      (dropWhile_firstLine (c :: rest)).symm, firstLine_cons inside,
      List.dropWhile_cons_of_pos (by simp [visible])]
    exact (List.dropWhile_suffix _).length_le
  have tokens := (Cursor.wordsWithin_spec .token enough).1
  rw [takeWhile_fits_token] at tokens
  refine ⟨(after.wordsWithin .token (firstLine rest).length).1,
    (after.wordsWithin .token (firstLine rest).length).2, ?_, tokens, fun wordless => ?_⟩
  · rw [Cursor.words, show (c :: rest).takeWhile (!isLineBreak ·) = c :: firstLine rest from
      firstLine_cons inside rest, List.length_cons, Cursor.wordsWithin, read]
  · exact congrArg Prod.snd (Cursor.wordsWithin_of_lineWords_nil wordless .token _)

/-- A numeral is found at the start of a line exactly if the line is one, and then the line ends there. -/
theorem numeral?_eq {cursor : Cursor} (starts : Fresh cursor.rest) :
    numeral? cursor = (readLine cursor).1.count?.map (·, (readLine cursor).2) := by
  by_cases nonempty : cursor.rest = []
  · have row := (readLine_spec cursor).1
    rw [nonempty] at row
    have empty : (readLine cursor).1.words = [] := List.map_eq_nil_iff.1 row
    rw [Line.count?, empty]
    simp [numeral?, nonempty]
  · obtain ⟨tokens, last, words, others, alone⟩ := exists_words_of_fresh starts nonempty
    by_cases digits : ∀ c ∈ cursor.rest.takeWhile isWordCharacter, c.isDigit = true
    · obtain ⟨same, after⟩ := skip_isWordCharacter digits
      have some : cursor.rest.takeWhile Char.isDigit ≠ [] := by
        obtain ⟨c, rest, front⟩ := List.exists_cons_of_ne_nil nonempty
        rw [← same, front, List.takeWhile_cons_of_pos (starts c (by rw [front]; rfl))]
        exact List.cons_ne_nil _ _
      rw [after] at others alone
      cases tokens with
      | nil =>
          have ends : (cursor.skip Char.isDigit).endsLine = true := Cursor.endsLine_iff.2 others.symm
          rw [same] at words digits
          simp [numeral?, some, ends, readLine, words, Line.count?, alone others.symm]
      | cons second tokens =>
          have more : (cursor.skip Char.isDigit).endsLine = false := by
            rw [← Bool.not_eq_true, Cursor.endsLine_iff, ← others]
            exact List.cons_ne_nil _ _
          simp [numeral?, more, readLine, words, Line.count?]
    · have more : (cursor.skip Char.isDigit).endsLine = false := by
        rw [← Bool.not_eq_true, Cursor.endsLine_iff]
        exact fun ends => digits (isDigit_of_mem_takeWhile ends)
      cases tokens <;> simp [numeral?, more, readLine, words, Line.count?, digits]

/-- A comment starts with no numeral. -/
theorem numeral?_of_comment {cursor : Cursor} (mark : cursor.rest.head? = some commentMark) :
    numeral? cursor = none := by
  obtain ⟨rest, front⟩ := List.head?_eq_some_iff.1 mark
  have noDigits : cursor.rest.takeWhile Char.isDigit = [] := by
    rw [front]
    rfl
  simp [numeral?, noDigits]

/-- The number of tapes is the numeral that the next line holds alone. -/
theorem readCount_eq {cursor : Cursor} (wordless : lineWords cursor.rest = []) :
    readCount cursor =
      match (readNextLine? cursor).bind fun read => read.1.count?.map (·, read.2) with
      | some (count, last) => (some count, last)
      | none => (none, cursor) := by
  unfold readCount readNextLine?
  by_cases past : pastLine cursor.rest = []
  · rw [Cursor.nextLine?_eq_none wordless past]
    rfl
  · obtain ⟨first, -, step, -, -, starts, -, -⟩ := Cursor.exists_nextLine? wordless past
    rw [step, Option.bind_some]
    dsimp only
    by_cases mark : first.rest.head? = some commentMark
    · rw [if_pos mark, numeral?_of_comment mark]
      rfl
    · rw [if_neg mark, numeral?_eq starts]
      obtain ⟨⟨_ | ⟨token, tokens⟩, stop⟩, last⟩ := readLine first <;> rfl

/-- The number of tapes is parted from the rules as it is from the lines that are read without it. -/
theorem splitCount_readLines {cursor : Cursor} (wordless : lineWords cursor.rest = []) :
    splitCount (readLines cursor).1 = ((readCount cursor).1, (readLines (readCount cursor).2).1) ∧
      lineWords (readCount cursor).2.rest = [] := by
  rw [readCount_eq wordless]
  rcases readNextLine?_spec wordless with
    ⟨stops, -⟩ | ⟨line, next, comments, step, -, -, -, left, -⟩
  · rw [stops, readLines_of_none stops]
    simp [readLines_of_none stops, splitCount, wordless]
  · have whole := readLines_of_some wordless step
    rw [step, whole, splitCount, Option.bind_some]
    dsimp only
    cases line.count? with
    | none =>
        dsimp only [Option.map_none]
        rw [whole]
        exact ⟨rfl, wordless⟩
    | some count => exact ⟨rfl, left⟩

end Multitape.Description
