/-
Module: Multitape.Proofs.PlacedLines
Purpose: The reader finds every word where it stands.  Without its places a placed line is a line of the
  layout, so what the reader makes of words is known; here its places are added, from the front of a text on,
  one lemma for each way in which a cursor moves.
Main exports: Layout.map_word_placedWords, Layout.map_placedLines, Layout.placedLines_eq,
  Cursor.placedLines_eq, Cursor.placedLines_of_lineBreak?, Cursor.exists_comments_placedLines,
  readLines_placed, exists_outline_of_placedBody?, isSome_placedBody?_iff
-/
import Multitape.Description.Placement
import Multitape.Proofs.DescriptionFormat

namespace Multitape.Description

namespace Layout

/-! ### Words without their places -/

@[simp] theorem map_word_placed (start : Nat) (pieces : List (List Char)) :
    (placed start pieces).map Token.word = pieces := by
  induction pieces generalizing start with
  | nil => rfl
  | cons piece pieces ih => rw [placed, List.map_cons, ih]

theorem map_word_placedWords (start : Nat) (line : List Char) :
    (placedWords start line).map Token.word = words line := by
  have kept : ∀ tokens : List Token, (tokens.filter (·.word ≠ [])).map Token.word =
      (tokens.map Token.word).filter (· ≠ []) := fun tokens => by
    rw [List.filter_map]
    rfl
  rw [placedWords, kept, map_word_placed, words]

theorem placedWords_eq_nil_iff {start : Nat} {line : List Char} :
    placedWords start line = [] ↔ words line = [] := by
  rw [← map_word_placedWords start, List.map_eq_nil_iff]

theorem map_placedLines (start : Nat) (text : List Char) :
    (placedLines start text).map (·.map Token.word) = lines text := by
  have kept : ∀ rows : List (List Token), (rows.filter (· ≠ [])).map (·.map Token.word) =
      (rows.map (·.map Token.word)).filter (· ≠ []) := fun rows => by
    rw [List.filter_map]
    congr 1
    apply List.filter_congr
    intro row _
    simp
  rw [placedLines, kept, List.map_map, lines, ← map_word_placed start (pieces isLineBreak text),
    List.map_map, map_word_placed]
  simp only [Function.comp_def, map_word_placedWords]

/-! ### Places from the front of a text on -/

/-- What is left behind a piece starts with a separator, or there is nothing. In both cases it counts as an empty
    piece and the pieces behind it. -/
theorem placed_pieces (isSeparator : Char → Bool) (start : Nat) (text : List Char) :
    ∃ others, placed start (pieces isSeparator text) =
        ⟨start, text.takeWhile (!isSeparator ·)⟩ :: others ∧
      placed (start + (text.takeWhile (!isSeparator ·)).length)
        (pieces isSeparator (text.dropWhile (!isSeparator ·))) =
          ⟨start + (text.takeWhile (!isSeparator ·)).length, []⟩ :: others := by
  rw [pieces_eq isSeparator text, placed]
  refine ⟨_, rfl, ?_⟩
  cases behind : text.dropWhile (!isSeparator ·) with
  | nil => rfl
  | cons c rest =>
      have separates : isSeparator c = true := by
        simpa using not_of_dropWhile behind
      rw [pieces_separator separates, placed]
      rfl

theorem placedWords_blank {c : Char} (blank : isBlank c = true) (start : Nat) (line : List Char) :
    placedWords start (c :: line) = placedWords (start + 1) line := by
  rw [placedWords, pieces_separator blank, placed]
  rfl

theorem placedWords_cons {c : Char} (visible : isBlank c = false) (start : Nat) (line : List Char) :
    placedWords start (c :: line) = ⟨start, c :: line.takeWhile (!isBlank ·)⟩ ::
      placedWords (start + (c :: line.takeWhile (!isBlank ·)).length) (line.dropWhile (!isBlank ·)) := by
  obtain ⟨others, front, behind⟩ := placed_pieces isBlank start (c :: line)
  rw [List.takeWhile_cons_of_pos (by simp [visible])] at front behind
  rw [List.dropWhile_cons_of_pos (by simp [visible])] at behind
  rw [placedWords, placedWords, front, behind]
  rfl

theorem placedLines_break {c : Char} (ends : isLineBreak c = true) (start : Nat) (rest : List Char) :
    placedLines start (c :: rest) = placedLines (start + 1) rest := by
  rw [placedLines, pieces_separator ends, placed]
  rfl

/-- The lines of a text are its first line, if that has words, and those behind it. -/
theorem placedLines_eq (start : Nat) (text : List Char) :
    placedLines start text = [placedWords start (firstLine text)].filter (· ≠ []) ++
      placedLines (start + (firstLine text).length) (pastLine text) := by
  obtain ⟨others, front, behind⟩ := placed_pieces isLineBreak start text
  rw [placedLines, placedLines, firstLine, pastLine, front, behind, List.map_cons, List.map_cons,
    ← List.singleton_append, List.filter_append]
  rfl

theorem placedLines_blank {c : Char} (blank : isBlank c = true) (start : Nat) (rest : List Char) :
    placedLines start (c :: rest) = placedLines (start + 1) rest := by
  have inside := isLineBreak_of_isBlank blank
  rw [placedLines_eq, firstLine_cons inside, pastLine_cons inside, placedWords_blank blank,
    placedLines_eq (start + 1), List.length_cons, Nat.add_right_comm start, ← Nat.add_assoc]

/-- Blanks and line breaks before a text add no lines to it. -/
theorem placedLines_dropWhile {kind : Char → Bool}
    (empty : ∀ c, kind c = true → isBlank c = true ∨ isLineBreak c = true) (start : Nat)
    (text : List Char) :
    placedLines (start + (text.takeWhile kind).length) (text.dropWhile kind) =
      placedLines start text := by
  induction text generalizing start with
  | nil => rfl
  | cons c rest ih =>
      cases skipped : kind c with
      | false => simp [skipped]
      | true =>
          rw [List.takeWhile_cons_of_pos skipped, List.dropWhile_cons_of_pos skipped, List.length_cons,
            Nat.add_comm (rest.takeWhile kind).length 1, ← Nat.add_assoc, ih]
          rcases empty c skipped with blank | ends
          · rw [placedLines_blank blank]
          · rw [placedLines_break ends]

end Layout

open Layout

namespace Cursor

variable {cursor next : Cursor}

/-! ### The line at which a cursor stands -/

/-- The words from a cursor to the end of its line. -/
def placedWords (cursor : Cursor) : List Token :=
  Layout.placedWords cursor.position (firstLine cursor.rest)

/-- The lines from a cursor on. -/
def placedLines (cursor : Cursor) : List (List Token) :=
  Layout.placedLines cursor.position cursor.rest

/-- The end of the line at which a cursor stands. -/
def atLineEnd (cursor : Cursor) : Cursor := cursor.skip (!isLineBreak ·)

theorem map_word_placedWords (cursor : Cursor) :
    cursor.placedWords.map Token.word = lineWords cursor.rest :=
  Layout.map_word_placedWords cursor.position (firstLine cursor.rest)

theorem placedWords_eq_nil_iff : cursor.placedWords = [] ↔ lineWords cursor.rest = [] :=
  Layout.placedWords_eq_nil_iff

theorem placedLines_eq (cursor : Cursor) :
    cursor.placedLines = [cursor.placedWords].filter (· ≠ []) ++ cursor.atLineEnd.placedLines :=
  Layout.placedLines_eq cursor.position cursor.rest

theorem placedLines_of_placedWords_nil (wordless : cursor.placedWords = []) :
    cursor.placedLines = cursor.atLineEnd.placedLines := by
  rw [cursor.placedLines_eq, wordless]
  rfl

theorem placedLines_of_placedWords_ne_nil (nonempty : cursor.placedWords ≠ []) :
    cursor.placedLines = cursor.placedWords :: cursor.atLineEnd.placedLines := by
  rw [cursor.placedLines_eq, List.filter_cons_of_pos (by simpa using nonempty)]
  rfl

/-! ### Moving within a line -/

/-- Going over characters of a line does not change where it ends. -/
theorem atLineEnd_skip {kind : Char → Bool} (inside : ∀ c, kind c = true → isLineBreak c = false)
    (cursor : Cursor) : (cursor.skip kind).atLineEnd = cursor.atLineEnd := by
  have behind := pastLine_dropWhile inside cursor.rest
  have skipped : (cursor.rest.takeWhile kind).length + (cursor.rest.dropWhile kind).length =
      cursor.rest.length := by
    rw [← List.length_append, List.takeWhile_append_dropWhile]
  have left := length_firstLine_add (cursor.rest.dropWhile kind)
  have whole := length_firstLine_add cursor.rest
  rw [behind] at left
  have position : cursor.position + (cursor.rest.takeWhile kind).length +
      (firstLine (cursor.rest.dropWhile kind)).length =
        cursor.position + (firstLine cursor.rest).length := by
    omega
  show Cursor.mk _ (pastLine (cursor.rest.dropWhile kind)) = ⟨_, pastLine cursor.rest⟩
  rw [behind]
  exact congrArg (Cursor.mk · _) position

theorem atLineEnd_skipBlanks (cursor : Cursor) : cursor.skipBlanks.atLineEnd = cursor.atLineEnd :=
  atLineEnd_skip (fun _ => isLineBreak_of_isBlank) cursor

theorem placedWords_skipBlanks (cursor : Cursor) :
    cursor.skipBlanks.placedWords = cursor.placedWords := by
  obtain ⟨position, rest⟩ := cursor
  show Layout.placedWords (position + (rest.takeWhile isBlank).length)
      (firstLine (rest.dropWhile isBlank)) = Layout.placedWords position (firstLine rest)
  induction rest generalizing position with
  | nil => rfl
  | cons c rest ih =>
      cases blank : isBlank c with
      | false => simp [blank]
      | true =>
          rw [List.takeWhile_cons_of_pos blank, List.dropWhile_cons_of_pos blank, List.length_cons,
            Nat.add_comm (rest.takeWhile isBlank).length 1, ← Nat.add_assoc, ih,
            firstLine_cons (isLineBreak_of_isBlank blank), placedWords_blank blank]

/-- The word that is found is the next one of the line, where it stands. -/
theorem placedWords_of_token? {token : Token} (found : cursor.token? = some (token, next)) :
    cursor.placedWords = token :: next.placedWords ∧ next.atLineEnd = cursor.atLineEnd := by
  obtain ⟨position, rest⟩ := cursor
  unfold token? at found
  split at found
  · cases found
  · rename_i word front
    cases found
    refine ⟨?_, atLineEnd_skip (fun _ => isLineBreak_of_isWordCharacter) _⟩
    cases rest with
    | nil => exact absurd rfl front
    | cons c rest =>
        have character : isWordCharacter c = true := by
          by_contra other
          exact front (List.takeWhile_cons_of_neg other)
        obtain ⟨visible, inside⟩ := isWordCharacter_iff.1 character
        show Layout.placedWords position (firstLine (c :: rest)) = ⟨position, _⟩ ::
          Layout.placedWords (position + ((c :: rest).takeWhile isWordCharacter).length)
            (firstLine ((c :: rest).dropWhile isWordCharacter))
        rw [firstLine_cons inside, Layout.placedWords_cons visible, takeWhile_firstLine,
          dropWhile_firstLine, List.takeWhile_cons_of_pos character,
          List.dropWhile_cons_of_pos character]

/-- A word of a kind is a word. -/
theorem token?_of_wanted? {wanted : Wanted} {found : Token × Cursor}
    (read : cursor.wanted? wanted = some found) : cursor.token? = some found := by
  unfold wanted? at read
  split at read
  · cases read
  · rename_i same
    rw [same]
    exact read
  · rename_i token after same
    rw [same]
    split at read
    · exact read
    · cases read

theorem placedWords_of_wanted? {wanted : Wanted} {token : Token}
    (found : cursor.skipBlanks.wanted? wanted = some (token, next)) :
    cursor.placedWords = token :: next.placedWords ∧ next.atLineEnd = cursor.atLineEnd := by
  obtain ⟨words, ends⟩ := placedWords_of_token? (token?_of_wanted? found)
  rw [placedWords_skipBlanks] at words
  rw [atLineEnd_skipBlanks] at ends
  exact ⟨words, ends⟩

/-- The words that are read are the next ones of the line, where they stand. -/
theorem placedWords_words (wanted : Wanted) (cursor : Cursor) :
    cursor.placedWords = (cursor.words wanted).1 ++ (cursor.words wanted).2.placedWords ∧
      (cursor.words wanted).2.atLineEnd = cursor.atLineEnd := by
  unfold words
  generalize (cursor.rest.takeWhile (!isLineBreak ·)).length = fuel
  induction fuel generalizing cursor with
  | zero => exact ⟨rfl, rfl⟩
  | succ fuel ih =>
      rw [wordsWithin]
      cases found : cursor.skipBlanks.wanted? wanted with
      | none => exact ⟨rfl, rfl⟩
      | some read =>
          obtain ⟨words, ends⟩ := placedWords_of_wanted? found
          obtain ⟨others, last⟩ := ih read.2
          refine ⟨?_, last.trans ends⟩
          rw [words, others]
          rfl

/-! ### Going to the next line -/

/-- A line break adds no line. -/
theorem placedLines_of_lineBreak? (found : cursor.lineBreak? = some next) :
    ∃ c rest, cursor.rest = c :: rest ∧ isLineBreak c = true ∧
      next.placedLines = cursor.placedLines := by
  obtain ⟨position, text⟩ := cursor
  unfold lineBreak? at found
  split at found
  · rename_i rest here
    cases found
    obtain rfl : text = '\r' :: '\n' :: rest := here
    refine ⟨_, _, rfl, rfl, ?_⟩
    show Layout.placedLines (position + 2) rest = Layout.placedLines position ('\r' :: '\n' :: rest)
    rw [placedLines_break rfl, placedLines_break rfl]
  · rename_i rest _ here
    cases found
    obtain rfl : text = '\r' :: rest := here
    exact ⟨_, _, rfl, rfl, (placedLines_break rfl position rest).symm⟩
  · rename_i rest here
    cases found
    obtain rfl : text = '\n' :: rest := here
    exact ⟨_, _, rfl, rfl, (placedLines_break rfl position rest).symm⟩
  · cases found

/-- Where a line ends behind blanks, no words are left of it. -/
theorem placed_of_lineBreak? (found : cursor.skipBlanks.lineBreak? = some next) :
    cursor.placedWords = [] ∧ next.placedLines = cursor.atLineEnd.placedLines ∧
      pastLine cursor.rest ≠ [] := by
  obtain ⟨c, rest, here, ends, same⟩ := placedLines_of_lineBreak? found
  have wordless : cursor.skipBlanks.placedWords = [] := by
    rw [placedWords, here, firstLine_break ends]
    rfl
  have behind : pastLine cursor.rest = c :: rest := by
    rw [← pastLine_dropWhile (fun _ => isLineBreak_of_isBlank) cursor.rest, ← skipBlanks_rest, here,
      pastLine_break ends]
  refine ⟨?_, ?_, by rw [behind]; exact List.cons_ne_nil c rest⟩
  · rw [← placedWords_skipBlanks, wordless]
  · rw [same, placedLines_of_placedWords_nil wordless, atLineEnd_skipBlanks]

theorem placed_of_lineBreaks? (found : cursor.lineBreaks? = some next) :
    cursor.placedWords = [] ∧ next.placedLines = cursor.atLineEnd.placedLines ∧
      pastLine cursor.rest ≠ [] ∧ Fresh next.rest := by
  obtain ⟨after, step, rfl⟩ := Option.map_eq_some_iff.1 found
  obtain ⟨wordless, same, more⟩ := placed_of_lineBreak? step
  refine ⟨wordless, ?_, more, fresh_skip after.rest⟩
  rw [← same]
  exact placedLines_dropWhile (fun c => by simp) after.position after.rest

/-! ### Comments -/

theorem placedLines_skipBlanks (cursor : Cursor) :
    cursor.skipBlanks.placedLines = cursor.placedLines :=
  placedLines_dropWhile (fun _ => Or.inl) cursor.position cursor.rest

/-- What is gone over before the end of a line is a comment, or nothing. -/
theorem exists_comment_placedLines (found : cursor.skipComment.skipBlanks.lineBreak? = some next) :
    ∃ comments, (∀ line ∈ comments, isPlacedComment line = true) ∧
      cursor.placedLines = comments ++ next.placedLines := by
  obtain ⟨wordless, same, -⟩ := placed_of_lineBreak? found
  unfold skipComment at wordless same
  by_cases mark : cursor.rest.head? = some commentMark
  · rw [if_pos mark] at same
    have ends : (cursor.skip (!isLineBreak ·)).atLineEnd = cursor.atLineEnd :=
      atLineEnd_skip (fun c inside => by simpa using inside) cursor
    obtain ⟨starts, nonempty⟩ := fresh_of_comment mark
    obtain ⟨words, -, comment⟩ := starts.lines_eq nonempty
    rw [← map_word_placedWords] at words comment
    refine ⟨[cursor.placedWords], ?_, ?_⟩
    · rw [List.forall_mem_singleton]
      exact comment.2 mark
    · rw [same, ends, placedLines_of_placedWords_ne_nil (fun nothing => words (by rw [nothing]; rfl))]
      rfl
  · rw [if_neg mark] at wordless same
    exact ⟨[], by simp, (placedLines_of_placedWords_nil wordless).trans same.symm⟩

theorem exists_comments_placedLines (fuel : Nat) (cursor : Cursor) :
    ∃ comments, (∀ line ∈ comments, isPlacedComment line = true) ∧
      cursor.placedLines = comments ++ (cursor.skipCommentsWithin fuel).placedLines := by
  induction fuel generalizing cursor with
  | zero => exact ⟨[], by simp, (placedLines_skipBlanks cursor).symm⟩
  | succ fuel ih =>
      rw [skipCommentsWithin]
      cases step : cursor.skipBlanks.skipComment.skipBlanks.lineBreak? with
      | none => exact ⟨[], by simp, (placedLines_skipBlanks cursor).symm⟩
      | some next =>
          obtain ⟨comments, all, first⟩ := exists_comment_placedLines step
          obtain ⟨others, allOthers, rest⟩ := ih next
          rw [placedLines_skipBlanks, rest, ← List.append_assoc] at first
          exact ⟨comments ++ others, List.forall_mem_append.2 ⟨all, allOthers⟩, first⟩

/-! ### The line of a rule -/

/-- All words of a line are read. -/
theorem placedWords_readLine (cursor : Cursor) :
    cursor.placedWords = (readLine cursor).1.words ∧
      (readLine cursor).2.atLineEnd = cursor.atLineEnd := by
  obtain ⟨words, ends⟩ := cursor.placedWords_words .token
  have wordless : (readLine cursor).2.placedWords = [] :=
    placedWords_eq_nil_iff.2 (readLine_spec cursor).2.1
  unfold readLine at wordless ⊢
  split at wordless <;> rename_i found <;> rw [found] at words ends <;>
    exact ⟨by rw [words, wordless, List.append_nil], ends⟩

end Cursor

/-! ### The header -/

/-- A row of reads goes well if each of them does. -/
theorem exists_of_bind_eq_ok {ε α β : Type} {result : Except ε α} {next : α → Except ε β} {value : β}
    (well : (result >>= next) = .ok value) : ∃ first, result = .ok first ∧ next first = .ok value := by
  cases result with
  | error error => cases well
  | ok first => exact ⟨first, rfl, well⟩

section Header

variable {cursor next : Cursor} {wanted : Wanted} {stop : Stop}

/-- A row that is read is a line of its own. -/
theorem placedLines_of_readRow {tokens : List Token}
    (read : readRow wanted cursor = .ok (tokens, stop, next)) :
    cursor.placedLines = tokens :: next.placedLines ∧ Fresh next.rest ∧ pastLine cursor.rest ≠ [] := by
  obtain ⟨words, ends⟩ := cursor.placedWords_words wanted
  unfold readRow at read
  dsimp only at read
  split at read
  · rename_i first others after found broken
    cases read
    obtain ⟨wordless, same, more, starts⟩ := Cursor.placed_of_lineBreaks? broken
    rw [wordless, List.append_nil] at words
    have nonempty : cursor.placedWords ≠ [] := by
      rw [words, found]
      exact List.cons_ne_nil _ _
    have behind : pastLine (cursor.words wanted).2.rest = pastLine cursor.rest :=
      congrArg Cursor.rest ends
    rw [behind] at more
    refine ⟨?_, starts, more⟩
    rw [Cursor.placedLines_of_placedWords_ne_nil nonempty, same, ends, words]
  · cases read

theorem placedLines_of_readSingle {token : Token}
    (read : readSingle wanted stop cursor = .ok (token, next)) :
    cursor.placedLines = [token] :: next.placedLines ∧ Fresh next.rest := by
  unfold readSingle at read
  split at read
  · cases read
  · rename_i word last found
    obtain ⟨words, ends⟩ := Cursor.placedWords_of_wanted? found
    split at read
    · cases read
    · rename_i after broken
      cases read
      obtain ⟨wordless, same, -, starts⟩ := Cursor.placed_of_lineBreaks? broken
      rw [wordless] at words
      refine ⟨?_, starts⟩
      rw [Cursor.placedLines_of_placedWords_ne_nil (by rw [words]; exact List.cons_ne_nil _ _), same,
        ends, words]

/-- The header lines that are read are the first five lines after the comments, and the next one is that of
    the accepting states. -/
theorem exists_cursor_of_read {text : List Char} {outline : Outline}
    (read : Outline.read text = .ok outline) :
    ∃ cursor : Cursor, Fresh cursor.rest ∧
      (placedLines 0 text).dropWhile isPlacedComment =
        outline.states :: outline.inputAlphabet :: outline.tapeAlphabet :: [outline.initial] ::
          [outline.blank] :: cursor.placedLines ∧
      splitCount (readLines (cursor.words .token).2).1 = (outline.tapeCount, outline.rules) := by
  unfold Outline.read at read
  obtain ⟨⟨states, _, second⟩, readStates, read⟩ := exists_of_bind_eq_ok read
  obtain ⟨⟨inputs, _, third⟩, readInputs, read⟩ := exists_of_bind_eq_ok read
  obtain ⟨⟨tapes, stop, fourth⟩, readTapes, read⟩ := exists_of_bind_eq_ok read
  obtain ⟨⟨initial, fifth⟩, readInitial, read⟩ := exists_of_bind_eq_ok read
  obtain ⟨⟨blank, cursor⟩, readBlank, read⟩ := exists_of_bind_eq_ok read
  obtain ⟨⟨accepting, last⟩, readAccepting, read⟩ := exists_of_bind_eq_ok read
  obtain ⟨_, -, read⟩ := exists_of_bind_eq_ok read
  cases read
  obtain ⟨comments, all, lines⟩ := (Cursor.start text).exists_comments_placedLines text.length
  obtain ⟨first, -, more⟩ := placedLines_of_readRow readStates
  -- The line of the states is no comment: the only one that can be left is the last line of the text.
  have visible : isPlacedComment states = false := by
    obtain ⟨-, -, -, starts, -, last⟩ := (Cursor.start text).skipComments_spec
    have nonempty : (Cursor.start text).skipComments.rest ≠ [] := fun nothing =>
      more (by rw [nothing]; rfl)
    obtain ⟨-, -, comment⟩ := starts.lines_eq nonempty
    have words : (Cursor.start text).skipComments.placedWords = states := by
      have split := (Cursor.start text).skipComments.placedLines_of_placedWords_ne_nil fun nothing =>
        (starts.lines_eq nonempty).1 (Cursor.placedWords_eq_nil_iff.1 nothing)
      exact (List.cons.inj (split.symm.trans first)).1
    rw [isPlacedComment, ← words, Cursor.map_word_placedWords, ← Bool.not_eq_true, comment]
    exact fun mark => more (last mark)
  have split := (splitCount_readLines cursor.words_token.2.1).1
  rw [words_of_readLastRow readAccepting] at split
  refine ⟨cursor, (placedLines_of_readSingle readBlank).2, ?_, ?_⟩
  · rw [show placedLines 0 text = comments ++ (Cursor.start text).skipComments.placedLines from lines,
      List.dropWhile_append_of_pos all, first, List.dropWhile_cons_of_neg (by simp [visible]),
      (placedLines_of_readRow readInputs).1, (placedLines_of_readRow readTapes).1,
      (placedLines_of_readSingle readInitial).1, (placedLines_of_readSingle readBlank).1]
  · rw [words_of_readLastRow readAccepting]
    exact split

end Header

/-! ### The lines after the header -/

/-- A line that is read is a line of the text, and all others are read behind it. -/
theorem placedLines_of_readNextLine? {cursor next : Cursor} {line : Line}
    (found : readNextLine? cursor = some (line, next)) :
    ∃ skipped, cursor.atLineEnd.placedLines = skipped ++ line.words :: next.atLineEnd.placedLines := by
  unfold readNextLine? at found
  split at found
  · cases found
  · rename_i first step
    obtain ⟨after, broken, rfl⟩ := Option.map_eq_some_iff.1 step
    obtain ⟨-, same, -⟩ := Cursor.placed_of_lineBreak? broken
    obtain ⟨skipped, -, lines⟩ := after.exists_comments_placedLines after.rest.length
    obtain ⟨words, ends⟩ := after.skipComments.placedWords_readLine
    refine ⟨skipped, ?_⟩
    rw [← same, lines]
    show skipped ++ after.skipComments.placedLines = _
    split at found
    · cases found
    · split at found
      · cases found
      · rename_i nonempty
        rw [Option.some.inj found] at words ends nonempty
        have some : after.skipComments.placedWords ≠ [] := by
          rw [words]
          intro nothing
          exact nonempty line.stop next (by rw [← nothing])
        rw [Cursor.placedLines_of_placedWords_ne_nil some, words, ends]

/-- Lines that are read are lines of the text, in their order. -/
theorem readLinesWithin_sublist (fuel : Nat) (cursor : Cursor) :
    ((readLinesWithin fuel cursor).1.map Line.words).Sublist cursor.atLineEnd.placedLines := by
  induction fuel generalizing cursor with
  | zero => exact List.nil_sublist _
  | succ fuel ih =>
      rw [readLinesWithin]
      cases found : readNextLine? cursor with
      | none => exact List.nil_sublist _
      | some read =>
          obtain ⟨skipped, lines⟩ := placedLines_of_readNextLine? found
          rw [lines]
          exact ((ih read.2).cons_cons read.1.words).trans (List.sublist_append_right skipped _)

/-- The lines that are read are those behind the first, without comments. -/
theorem readLines_placed {cursor : Cursor} (wordless : lineWords cursor.rest = []) :
    (readLines cursor).1.map Line.words =
      cursor.atLineEnd.placedLines.filter (!isPlacedComment ·) := by
  have rows : ((readLines cursor).1.map Line.words).map (·.map Token.word) =
      (cursor.atLineEnd.placedLines.filter (!isPlacedComment ·)).map (·.map Token.word) := by
    have read := (readLines_spec wordless).1
    rw [show pastLine cursor.rest = cursor.atLineEnd.rest from rfl,
      ← map_placedLines cursor.atLineEnd.position, List.filter_map] at read
    rw [List.map_map]
    exact read
  have visible : ∀ line ∈ (readLines cursor).1.map Line.words, (!isPlacedComment line) = true := by
    intro line mem
    have row : line.map Token.word ∈ ((readLines cursor).1.map Line.words).map (·.map Token.word) :=
      List.mem_map_of_mem mem
    rw [rows] at row
    obtain ⟨other, kept, same⟩ := List.mem_map.1 row
    have shown := (List.mem_filter.1 kept).2
    rwa [isPlacedComment, same] at shown
  have sublist := (readLinesWithin_sublist cursor.rest.length cursor).filter (!isPlacedComment ·)
  rw [← readLines, List.filter_eq_self.2 visible] at sublist
  apply sublist.eq_of_length
  simpa using congrArg List.length rows

/-! ### Texts with a header -/

/-- A text with a header is read, and the lines after it are found where they stand. -/
theorem exists_outline_of_placedBody? {text : List Char} {body : List (List Token)}
    (ends : Sealed text) (layout : placedBody? text = some body) :
    ∃ outline lines, Outline.read text = .ok outline ∧ lines.map Line.words = body ∧
      splitCount lines = (outline.tapeCount, outline.rules) := by
  unfold placedBody? at layout
  split at layout
  · rename_i states inputs tapes initial blank accepting rest front
    rw [Option.ite_none_right_eq_some] at layout
    obtain ⟨good, ⟨⟩⟩ := layout
    have agrees := read_agrees ends
    rw [← map_placedLines 0 text, List.dropWhile_map,
      show isComment ∘ (·.map Token.word) = isPlacedComment from rfl, front] at agrees
    simp only [List.all_append, Bool.and_eq_true, List.all_eq_true, beq_iff_eq,
      List.forall_mem_singleton] at good
    obtain ⟨⟨goodInputs, goodTapes⟩, goodBlank⟩ := good
    have header : ∃ sections, sections? ((states :: inputs :: tapes :: [initial] :: [blank] ::
        accepting :: rest).map (·.map Token.word)) = some sections := by
      simp +contextual [sections?, takeRow?, takeSingle?, fits, goodInputs, goodTapes, goodBlank]
    obtain ⟨sections, found⟩ := header
    rw [found] at agrees
    cases read : Outline.read text with
    | error stop =>
        rw [read] at agrees
        cases agrees
    | ok outline =>
        obtain ⟨cursor, starts, lines, parted⟩ := exists_cursor_of_read read
        rw [front] at lines
        simp only [List.cons.injEq] at lines
        obtain ⟨-, -, -, -, -, lastLines⟩ := lines
        -- The cursor stands at the accepting states: what is left is not empty, so it starts with a word.
        have nonempty : cursor.placedWords ≠ [] := by
          intro nothing
          have wordless := Cursor.placedWords_eq_nil_iff.1 nothing
          by_cases more : cursor.rest = []
          · rw [Cursor.placedLines, more] at lastLines
            cases lastLines
          · exact (starts.lines_eq more).1 wordless
        rw [Cursor.placedLines_of_placedWords_ne_nil nonempty] at lastLines
        obtain ⟨-, rfl⟩ := List.cons.inj lastLines
        have placed := readLines_placed cursor.words_token.2.1
        rw [(cursor.placedWords_words .token).2] at placed
        exact ⟨outline, _, rfl, placed, parted⟩
  · cases layout

/-- The texts whose sections are read are those with a header. -/
theorem isSome_placedBody?_iff {text : List Char} (ends : Sealed text) :
    (placedBody? text).isSome = true ↔ ∃ outline, Outline.read text = .ok outline := by
  constructor
  · intro layout
    obtain ⟨body, layout⟩ := Option.isSome_iff_exists.1 layout
    obtain ⟨outline, -, read, -⟩ := exists_outline_of_placedBody? ends layout
    exact ⟨outline, read⟩
  · rintro ⟨outline, read⟩
    have agrees := read_agrees ends
    obtain ⟨cursor, -, front, -⟩ := exists_cursor_of_read read
    rw [read, ← map_placedLines 0 text, List.dropWhile_map,
      show isComment ∘ (·.map Token.word) = isPlacedComment from rfl, front] at agrees
    rw [placedBody?, front]
    cases left : cursor.placedLines with
    | nil =>
        exfalso
        rw [left] at agrees
        have missed : sections? ((outline.states :: outline.inputAlphabet :: outline.tapeAlphabet ::
            [outline.initial] :: [outline.blank] :: []).map (·.map Token.word)) = none := by
          simp [sections?, takeRow?, takeSingle?]
        rw [missed] at agrees
        cases agrees
    | cons accepting rest =>
        by_contra other
        rw [left] at agrees
        have missed : sections? ((outline.states :: outline.inputAlphabet :: outline.tapeAlphabet ::
            [outline.initial] :: [outline.blank] :: accepting :: rest).map (·.map Token.word)) =
              none := by
          simpa [sections?, takeRow?, takeSingle?, fits] using other
        rw [missed] at agrees
        cases agrees

end Multitape.Description
