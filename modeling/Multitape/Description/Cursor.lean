/-
Module: Multitape.Description.Cursor
Purpose: Places in a text, and the smallest pieces that are read there.
Main exports:
  Cursor, Token, isBlank, isWordCharacter, Cursor.skipBlanks, Cursor.token?,
  Cursor.wanted?, Cursor.words, Cursor.lineBreaks?, Cursor.skipComments, Cursor.nextLine?,
  Cursor.endsLine, Cursor.closes
-/
import Multitape.Description.Diagnostic

namespace Multitape.Description

/-! ### Characters -/

/-- Spaces and tabs separate words within a line. -/
def isBlank (c : Char) : Bool := c == ' ' || c == '\t'

/-- Everything that neither separates words nor ends a line is part of a word. -/
def isWordCharacter (c : Char) : Bool := !isBlank c && !isLineBreak c

/-- The character that opens a comment at the start of a line. -/
def commentMark : Char := '#'

/-! ### Places -/

/-- A place in a text: how many characters stand before it, and the rest of the text. -/
structure Cursor where
  position : Nat
  rest : List Char
deriving DecidableEq

/-- A word of a text, with the number of characters before it. -/
structure Token where
  position : Nat
  word : List Char
deriving DecidableEq

namespace Token

/-- The word as a name. -/
def name (token : Token) : String := String.ofList token.word

end Token

namespace Cursor

/-- The start of a text. -/
def start (text : List Char) : Cursor := ⟨0, text⟩

/-- Go over all characters of a kind. -/
def skip (kind : Char → Bool) (cursor : Cursor) : Cursor :=
  ⟨cursor.position + (cursor.rest.takeWhile kind).length, cursor.rest.dropWhile kind⟩

/-- Go over spaces and tabs. -/
def skipBlanks (cursor : Cursor) : Cursor := cursor.skip isBlank

/-- The word that starts here, and the place after it. -/
def token? (cursor : Cursor) : Option (Token × Cursor) :=
  match cursor.rest.takeWhile isWordCharacter with
  | [] => none
  | word => some (⟨cursor.position, word⟩, cursor.skip isWordCharacter)

/-- The word that starts here, if it is of the wanted kind. -/
def wanted? (wanted : Wanted) (cursor : Cursor) : Option (Token × Cursor) :=
  match wanted, cursor.token? with
  | _, none => none
  | .token, some found => some found
  | .symbol, some (token, next) => if token.word.length = 1 then some (token, next) else none

/-- The words of the wanted kind that follow each other from here on, at most `fuel` of them, and the
    place after the last. -/
def wordsWithin (wanted : Wanted) : Nat → Cursor → List Token × Cursor
  | 0, cursor => ([], cursor)
  | fuel + 1, cursor =>
      match cursor.skipBlanks.wanted? wanted with
      | none => ([], cursor)
      | some (token, next) =>
          let (tokens, last) := wordsWithin wanted fuel next
          (token :: tokens, last)

/-- All words of the wanted kind that follow each other from here on, and the place after the last. They are
    on one line and every word takes a character, so there are no more words than the line has characters. -/
def words (wanted : Wanted) (cursor : Cursor) : List Token × Cursor :=
  wordsWithin wanted (cursor.rest.takeWhile (!isLineBreak ·)).length cursor

/-- Go over one line break: a line feed, a carriage return, or a carriage return and a line
    feed. -/
def lineBreak? (cursor : Cursor) : Option Cursor :=
  match cursor.rest with
  | '\r' :: '\n' :: rest => some ⟨cursor.position + 2, rest⟩
  | '\r' :: rest => some ⟨cursor.position + 1, rest⟩
  | '\n' :: rest => some ⟨cursor.position + 1, rest⟩
  | _ => none

/-- Go over the end of a line and all empty lines after it. -/
def lineBreaks? (cursor : Cursor) : Option Cursor :=
  cursor.skipBlanks.lineBreak?.map (·.skip fun c => isBlank c || isLineBreak c)

/-- Go over a comment, up to the end of its line. -/
def skipComment (cursor : Cursor) : Cursor :=
  if cursor.rest.head? = some commentMark then cursor.skip (!isLineBreak ·) else cursor

/-- Go over whole lines that are empty or hold a comment, at most `fuel` of them. A comment that no line
    break ends is left where it is. -/
def skipCommentsWithin : Nat → Cursor → Cursor
  | 0, cursor => cursor.skipBlanks
  | fuel + 1, cursor =>
      match cursor.skipBlanks.skipComment.skipBlanks.lineBreak? with
      | none => cursor.skipBlanks
      | some next => skipCommentsWithin fuel next

/-- Go over whole lines that are empty or hold a comment. -/
def skipComments (cursor : Cursor) : Cursor := skipCommentsWithin cursor.rest.length cursor

/-- Go over the end of a line, and over all lines after it that are empty or hold a comment. -/
def nextLine? (cursor : Cursor) : Option Cursor := cursor.skipBlanks.lineBreak?.map skipComments

/-- Whether the line has no more words. -/
def endsLine (cursor : Cursor) : Bool := cursor.skipBlanks.rest.head?.all isLineBreak

/-- Whether up to the end of the text there are no words but those of comments. At most `fuel` comments and ends
    of lines are gone over. -/
def closesWithin : Nat → Cursor → Bool
  | 0, cursor => cursor.skipBlanks.rest.isEmpty
  | fuel + 1, cursor =>
      let here := cursor.skipBlanks
      match here.lineBreak? with
      | some next => closesWithin fuel next
      | none =>
          if here.rest.head? = some commentMark then closesWithin fuel here.skipComment
          else here.rest.isEmpty

/-- Whether up to the end of the text there are no words but those of comments. -/
def closes (cursor : Cursor) : Bool := closesWithin cursor.rest.length cursor

end Cursor

end Multitape.Description
