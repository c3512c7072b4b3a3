/-
Module: Multitape.Description
Purpose: Machines described in lines of text: from the words of a description to its declarations.
Main exports: Description.readRule, Description.readTapeCount, Description.Outline.declarations,
  Description.parseChars, Description.parse
-/
import Multitape.Declarations
import Multitape.Description.Outline
import Multitape.Text.Basic

namespace Multitape.Description

/-- A fault and the characters it concerns. -/
structure Blame where
  position : Nat
  length : Nat
  fault : Fault
deriving DecidableEq

/-- Blame a word. -/
def Token.blame (token : Token) (fault : Fault) : Blame :=
  ⟨token.position, token.word.length, fault⟩

/-- Blame a line from its first word to its end. -/
def Line.blame (line : Line) (fault : Fault) : Blame :=
  match line.words with
  | [] => ⟨line.stop, 0, fault⟩
  | first :: _ => ⟨first.position, line.stop - first.position, fault⟩

/-- The symbol that a word is, if it is of one character. -/
def Token.symbol (token : Token) : Except Blame Char :=
  match token.word with
  | [symbol] => .ok symbol
  | word => .error (token.blame (.severalSymbols word))

/-- The direction that a word stands for. -/
def Token.direction (token : Token) : Except Blame Direction :=
  match token.word with
  | [letter] =>
      match Direction.ofLetter? letter with
      | some direction => .ok direction
      | none => .error (token.blame (.unsupportedDirection token.word))
  | word => .error (token.blame (.unsupportedDirection word))

/-- The symbols that words are, or the first word that is none. -/
def readSymbols : List Token → Except Blame (List Char)
  | [] => .ok []
  | token :: tokens => do
      let symbol ← token.symbol
      let symbols ← readSymbols tokens
      return symbol :: symbols

/-- The directions that words stand for, or the first word that stands for none. -/
def readDirections : List Token → Except Blame (List Direction)
  | [] => .ok []
  | token :: tokens => do
      let direction ← token.direction
      let directions ← readDirections tokens
      return direction :: directions

/-- Read a rule for a number of tapes: its source, the symbols it reads, its target, the symbols it
    writes and the directions it moves in. Words are counted first; then reads, writes and directions are
    taken in turn. -/
def readRule (tapes : Nat) (line : Line) : Except Blame RuleDeclaration :=
  let bad : Except Blame RuleDeclaration := .error (line.blame (.fieldCount tapes line.words.length))
  if line.words.length = 3 * tapes + 2 then
    match line.words, line.words.drop (tapes + 1) with
    | source :: words, target :: others => do
        let read ← readSymbols (words.take tapes)
        let write ← readSymbols (others.take tapes)
        let directions ← readDirections (others.drop tapes)
        return { source := source.name, read := read, target := target.name, write := write,
                 directions := directions }
    | _, _ => bad
  else bad

/-- The number of tapes: one, unless another number is declared. -/
def readTapeCount : Option Token → Except Blame Nat
  | none => .ok 1
  | some token =>
      let count := Text.numeral token.word
      if count = 0 then .error (token.blame .noTapes)
      else if count < Text.wordBound then .ok count
      else .error (token.blame .tooManyTapes)

/-- Read rules for a number of tapes in the order of their lines. -/
def readRules (tapes : Nat) : List Line → Except Blame (List RuleDeclaration)
  | [] => .ok []
  | line :: lines => do
      let rule ← readRule tapes line
      let rules ← readRules tapes lines
      return rule :: rules

/-- What the words of a description declare. The name is left to who knows where the text is from. -/
def Outline.declarations (outline : Outline) : Except Blame Declarations := do
  let tapes ← readTapeCount outline.tapeCount
  let rules ← readRules tapes outline.rules
  return {
    states := outline.states.map Token.name
    inputAlphabet := Alphabet.ofList (outline.inputAlphabet.flatMap (·.word))
    tapeAlphabet := Alphabet.ofList (outline.tapeAlphabet.flatMap (·.word))
    blank := outline.blank.word.headD defaultBlank
    tapeCount := tapes
    initial := some outline.initial.name
    accepting := outline.accepting.map Token.name
    rules := rules }

/-- What a text without white space at its ends declares. -/
def readDeclarations (text : List Char) : Except Blame Declarations :=
  match Outline.read text with
  | .error stop => .error ⟨stop.position, 0, .expected stop.wanted⟩
  | .ok outline => outline.declarations

/-- The program that a row of characters describes. White space at its ends does not count. -/
def parseChars (text : List Char) : Except Error Program :=
  let trimmed := Text.trim text
  match readDeclarations trimmed with
  | .error blame => .error (.malformed ⟨trimmed, blame.position, blame.length, blame.fault⟩)
  | .ok declarations => declarations.build.mapError .inconsistent

/-- The program that a text describes. -/
def parse (text : String) : Except Error Program := parseChars text.toList

end Multitape.Description
