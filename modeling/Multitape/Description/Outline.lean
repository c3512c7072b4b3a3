/-
Module: Multitape.Description.Outline
Purpose: The sections of a description as words, before anything is known of their meaning.
Main exports: Stop, Line, Outline, Outline.read
-/
import Multitape.Description.Cursor

namespace Multitape.Description

/-!
A description has six header lines (states, input symbols, tape symbols, the initial state, the blank,
accepting states), then perhaps a line with the number of tapes, then a line for each rule.  Empty lines may
stand anywhere.  Lines that start with a number sign are comments before the states and after the
accepting states; in the lines between, the number sign is a symbol like any other.

A header that breaks off is reported at the last place where a row of words came to its end and could have
gone on.  So a header line with one word too many is reported where its row ended if it holds a row, and at
the end of the tape symbols if it is the line of the initial state or of the blank, which hold no row.

After the header everything is checked as well: the row of the accepting states is not empty, a number of tapes
is all that its line holds, and behind the rules only empty lines and comments are left.  A text without white
space at its end always has that row, and behind the rules no text has anything else.

The line of a rule ends with its last word.  But blanks after a word are gone over before it is known whether
another word follows, and a line that stops at its first word keeps them.
-/

/-- A place where a row of words came to its end, and the kind of word with which it could have gone on. -/
structure Stop where
  position : Nat
  wanted : Wanted
deriving DecidableEq

/-- The words of a line after the header, and the place where it ends. -/
structure Line where
  words : List Token
  stop : Nat
deriving DecidableEq

/-- The words of a description, section by section. -/
structure Outline where
  states : List Token
  inputAlphabet : List Token
  tapeAlphabet : List Token
  initial : Token
  blank : Token
  accepting : List Token
  tapeCount : Option Token
  rules : List Line
deriving DecidableEq

/-- Read a header line that holds a row of words, and the end of that line. -/
def readRow (wanted : Wanted) (cursor : Cursor) : Except Stop (List Token × Stop × Cursor) :=
  let (tokens, last) := cursor.words wanted
  let stop := Stop.mk last.skipBlanks.position wanted
  match tokens, last.lineBreaks? with
  | _ :: _, some next => .ok (tokens, stop, next)
  | _, _ => .error stop

/-- Read a header line that holds one word, and the end of that line. The last row ended at `stop`. -/
def readSingle (wanted : Wanted) (stop : Stop) (cursor : Cursor) : Except Stop (Token × Cursor) :=
  match cursor.skipBlanks.wanted? wanted with
  | none => .error ⟨cursor.skipBlanks.position, wanted⟩
  | some (token, last) =>
      match last.lineBreaks? with
      | none => .error stop
      | some next => .ok (token, next)

/-- Read the last row of the header. Nothing has to follow it. -/
def readLastRow (wanted : Wanted) (cursor : Cursor) : Except Stop (List Token × Cursor) :=
  match cursor.words wanted with
  | ([], _) => .error ⟨cursor.skipBlanks.position, wanted⟩
  | (token :: tokens, last) => .ok (token :: tokens, last)

/-- The digits that start here, if they are all that is left of their line. -/
def numeral? (cursor : Cursor) : Option (Token × Cursor) :=
  let digits := cursor.rest.takeWhile Char.isDigit
  let last := cursor.skip Char.isDigit
  if digits ≠ [] ∧ last.endsLine then some (⟨cursor.position, digits⟩, last) else none

/-- Read the number of tapes, if the next line that is no comment holds a numeral alone. -/
def readCount (cursor : Cursor) : Option Token × Cursor :=
  match cursor.nextLine?.bind numeral? with
  | some (count, last) => (some count, last)
  | none => (none, cursor)

/-- The line of words that start here, and the place after the last. The line of a lone word takes in the
    blanks after it. -/
def readLine (cursor : Cursor) : Line × Cursor :=
  match cursor.words .token with
  | ([token], last) => (⟨[token], last.skipBlanks.position⟩, last)
  | (tokens, last) => (⟨tokens, last.position⟩, last)

/-- Read the next line that is no comment. -/
def readNextLine? (cursor : Cursor) : Option (Line × Cursor) :=
  match cursor.nextLine? with
  | none => none
  | some first =>
      if first.rest.head? = some commentMark then none
      else match readLine first with
        | (⟨[], _⟩, _) => none
        | found => some found

/-- Read the lines that are no comments, at most `fuel` of them, and the place after the last. -/
def readLinesWithin : Nat → Cursor → List Line × Cursor
  | 0, cursor => ([], cursor)
  | fuel + 1, cursor =>
      match readNextLine? cursor with
      | none => ([], cursor)
      | some (line, next) =>
          let (lines, last) := readLinesWithin fuel next
          (line :: lines, last)

/-- Read the lines that are no comments, and the place after the last. Every line takes a character. -/
def readLines (cursor : Cursor) : List Line × Cursor := readLinesWithin cursor.rest.length cursor

/-- Only empty lines and comments are left. -/
def readEnd (cursor : Cursor) : Except Stop Unit :=
  if cursor.closes then .ok () else .error ⟨cursor.skipBlanks.position, .token⟩

/-- Read the sections of a text. -/
def Outline.read (text : List Char) : Except Stop Outline := do
  let (states, _, cursor) ← readRow .token (Cursor.start text).skipComments
  let (inputAlphabet, _, cursor) ← readRow .symbol cursor
  let (tapeAlphabet, stop, cursor) ← readRow .symbol cursor
  let (initial, cursor) ← readSingle .token stop cursor
  let (blank, cursor) ← readSingle .symbol stop cursor
  let (accepting, cursor) ← readLastRow .token cursor
  let (tapeCount, cursor) := readCount cursor
  let (rules, cursor) := readLines cursor
  readEnd cursor
  return {
    states := states
    inputAlphabet := inputAlphabet
    tapeAlphabet := tapeAlphabet
    initial := initial
    blank := blank
    accepting := accepting
    tapeCount := tapeCount
    rules := rules }

end Multitape.Description
