/-
Module: Multitape.Description.Placement
Purpose: The lines and words of a description with their places in the text, and what is wrong with a line
  that should hold a rule. As in the layout nothing is read here: a place is counted from the lengths of the
  pieces before it.
Main exports: Layout.placed, Layout.placedWords, Layout.placedLines, Layout.placedBody?,
  Layout.tapesAndRules, Layout.entries, Layout.Readable, Layout.Blames
-/
import Multitape.Description.Layout

namespace Multitape.Description.Layout

/-! ### Places -/

/-- Pieces of a text with their places. The first one stands at `start`, and a separator of one character
    before each of the others. -/
def placed : Nat → List (List Char) → List Token
  | _, [] => []
  | start, piece :: pieces => ⟨start, piece⟩ :: placed (start + piece.length + 1) pieces

/-- The words of a line that stands at a place. -/
def placedWords (start : Nat) (line : List Char) : List Token :=
  (placed start (pieces isBlank line)).filter (·.word ≠ [])

/-- The lines of a text that have words. -/
def placedLines (start : Nat) (text : List Char) : List (List Token) :=
  ((placed start (pieces isLineBreak text)).map fun line =>
    placedWords line.position line.word).filter (· ≠ [])

/-! ### Sections -/

/-- A line is a comment if its first word starts with the comment mark. -/
def isPlacedComment (line : List Token) : Bool := isComment (line.map Token.word)

/-- The lines after the header of a text, without comments. There is a header if the lines after the comments
    at the start hold names, input symbols, tape symbols, one name, one symbol, and names. -/
def placedBody? (text : List Char) : Option (List (List Token)) :=
  match (placedLines 0 text).dropWhile isPlacedComment with
  | _ :: inputs :: tapes :: [_] :: [blank] :: _ :: rest =>
      if (inputs ++ tapes ++ [blank]).all (·.word.length == 1) then
        some (rest.filter (!isPlacedComment ·))
      else none
  | _ => none

/-- The number of tapes and the lines of rules. A numeral alone on the first line is the number of tapes;
    without one there is one tape. -/
def tapesAndRules (body : List (List Token)) : Nat × List (List Token) :=
  match body with
  | [token] :: lines =>
      if token.word.all Char.isDigit then (Text.numeral token.word, lines) else (1, body)
  | _ => (1, body)

/-! ### Lines of rules -/

/-- What a word in the line of a rule has to be if it is no name. -/
inductive Entry where
  | symbol
  | direction
deriving DecidableEq

/-- A word is what it has to be: one character, or the letter of a direction. -/
def Entry.Admits : Entry → List Char → Prop
  | symbol, word => word.length = 1
  | direction, word => word = ['L'] ∨ word = ['R'] ∨ word = ['S']

/-- What is told about a word that is not what it has to be. -/
def Entry.complaint (word : List Char) : Entry → String
  | symbol => "Expected a single symbol, found '" ++ String.ofList word ++ "'"
  | direction => "Unsupported direction: " ++ String.ofList word

/-- The words of a rule that are no names: those it reads, those it writes, and its directions. A name stands
    before the reads and another one before the writes. -/
def entries (tapes : Nat) (line : List Token) : List (Entry × Token) :=
  ((line.drop 1).take tapes).map (.symbol, ·) ++
    (((line.drop (tapes + 2)).take tapes).map (.symbol, ·) ++
      (line.drop (2 * tapes + 2)).map (.direction, ·))

/-- A line holds a rule for a number of tapes. -/
structure Readable (tapes : Nat) (line : List Token) : Prop where
  length_eq : line.length = 3 * tapes + 2
  entries_admitted : ∀ entry ∈ entries tapes line, entry.1.Admits entry.2.word

/-- Where a line does not hold a rule, and what is told about it. Words are counted first; then the first
    entry is meant that is not what it has to be. -/
inductive Blames (tapes : Nat) (line : List Token) : Nat → String → Prop where
  | count {first : Token} (front : line.head? = some first) (uneven : line.length ≠ 3 * tapes + 2) :
      Blames tapes line first.position
        ("Transition expects " ++ toString (3 * tapes + 2) ++ " fields for " ++ toString tapes ++
          " tape(s), found " ++ toString line.length)
  | entry {before after : List (Entry × Token)} {kind : Entry} {token : Token}
      (even : line.length = 3 * tapes + 2)
      (parted : entries tapes line = before ++ (kind, token) :: after)
      (admitted : ∀ earlier ∈ before, earlier.1.Admits earlier.2.word)
      (refused : ¬ kind.Admits token.word) :
      Blames tapes line token.position (kind.complaint token.word)

end Multitape.Description.Layout
