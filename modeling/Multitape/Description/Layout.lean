/-
Module: Multitape.Description.Layout
Purpose: The description format told in lines and words, without places and without a reader.
Main exports: Layout.lines, Layout.isComment, Layout.rule?, Layout.body?, Layout.declared?
-/
import Multitape.Description

namespace Multitape.Description.Layout

/-- The pieces of a text between separators. -/
def pieces (isSeparator : Char → Bool) : List Char → List (List Char)
  | [] => [[]]
  | c :: rest =>
      if isSeparator c then [] :: pieces isSeparator rest
      else match pieces isSeparator rest with
        | [] => [[c]]
        | piece :: others => (c :: piece) :: others

/-- The words of a line. -/
def words (line : List Char) : List (List Char) := (pieces isBlank line).filter (· ≠ [])

/-- The lines of a text that have words. -/
def lines (text : List Char) : List (List (List Char)) :=
  ((pieces isLineBreak text).map words).filter (· ≠ [])

/-- A line is a comment if its first word starts with the comment mark. -/
def isComment (line : List (List Char)) : Bool :=
  (line.head?.bind List.head?) == some commentMark

/-- The symbol that a word is. -/
def symbol? : List Char → Option Char
  | [symbol] => some symbol
  | _ => none

/-- The direction that a word is. -/
def direction? (word : List Char) : Option Direction := (symbol? word).bind Direction.ofLetter?

/-- The rule of a line of a machine with some number of tapes: a state, a symbol for each tape, a state, a
    symbol for each tape and a direction for each tape. -/
def rule? (tapes : Nat) (row : List (List Char)) : Option RuleDeclaration :=
  if row.length = 3 * tapes + 2 then do
    let source ← row[0]?
    let read ← ((row.drop 1).take tapes).mapM symbol?
    let target ← row[tapes + 1]?
    let write ← ((row.drop (tapes + 2)).take tapes).mapM symbol?
    let directions ← (row.drop (2 * tapes + 2)).mapM direction?
    return ⟨String.ofList source, read, String.ofList target, write, directions⟩
  else none

/-- The number of tapes and the rules after the header. A numeral alone on the first line is the number of
    tapes, which is not zero and has 64 bits. -/
def body? : List (List (List Char)) → Option (Nat × List RuleDeclaration)
  | [] => some (1, [])
  | first :: others =>
      match first with
      | [word] =>
          if word.all Char.isDigit then
            let tapes := Text.numeral word
            if 0 < tapes ∧ tapes < Text.wordBound then (others.mapM (rule? tapes)).map (tapes, ·) else none
          else none
      | _ => ((first :: others).mapM (rule? 1)).map (1, ·)

/-- What a text declares: six lines after the comments at its start, then what is left without
    comments. -/
def declared? (text : List Char) : Option Declarations :=
  match (lines text).dropWhile isComment with
  | states :: inputs :: tapes :: [initial] :: [blank] :: accepting :: rest => do
      let inputs ← inputs.mapM symbol?
      let tapes ← tapes.mapM symbol?
      let blank ← symbol? blank
      let (count, rules) ← body? (rest.filter (!isComment ·))
      return {
        states := states.map String.ofList
        inputAlphabet := Alphabet.ofList inputs
        tapeAlphabet := Alphabet.ofList tapes
        blank := blank
        tapeCount := count
        initial := some (String.ofList initial)
        accepting := accepting.map String.ofList
        rules := rules }
  | _ => none

end Multitape.Description.Layout
