/-
Module: Multitape.Description.Diagnostic
Purpose: Where and why a description cannot be read, and how that is shown.
Main exports: Wanted, Fault, Diagnostic, Diagnostic.line, Diagnostic.column, Diagnostic.render
-/
namespace Multitape.Description

/-- What the next word of a section has to be. -/
inductive Wanted where
  /-- Any run of characters without blanks and line breaks. -/
  | token
  /-- A token of one character. -/
  | symbol
deriving DecidableEq, Repr

/-- What a piece of text is called in a message. -/
def Wanted.name : Wanted → String
  | token => "token"
  | symbol => "symbol"

/-- What is wrong with a description. -/
inductive Fault where
  /-- A section ends too early, or has a word of the wrong kind. -/
  | expected (wanted : Wanted)
  /-- A rule has another number of words than its source, its target and three for each tape. -/
  | fieldCount (tapes found : Nat)
  /-- A rule reads or writes a word of several characters. -/
  | severalSymbols (word : List Char)
  /-- A rule moves a head where no letter of a direction stands. -/
  | unsupportedDirection (word : List Char)
  /-- The declared number of tapes is zero. -/
  | noTapes
  /-- The declared number of tapes has more than 64 bits. -/
  | tooManyTapes
deriving DecidableEq

namespace Fault

/-- Whether the sections themselves cannot be told apart, so that nothing more is known of the text. -/
def isSyntactic : Fault → Bool
  | expected _ => true
  | _ => false

/-- What is told about a fault. -/
def message : Fault → String
  | expected wanted => "expected " ++ wanted.name
  | fieldCount tapes found =>
      "Transition expects " ++ toString (3 * tapes + 2) ++ " fields for " ++ toString tapes ++
        " tape(s), found " ++ toString found
  | severalSymbols word => "Expected a single symbol, found '" ++ String.ofList word ++ "'"
  | unsupportedDirection word => "Unsupported direction: " ++ String.ofList word
  | noTapes => "A machine needs at least one tape"
  | tooManyTapes => "Invalid tape count: number too large to fit in target type"

end Fault

/-- Whether a character is a line feed or a carriage return. -/
def isLineBreak (c : Char) : Bool := c == '\n' || c == '\r'

/-- A fault of a text. It lies at the character that has `position` characters before it, and concerns
    `length` characters from there on. -/
structure Diagnostic where
  text : List Char
  position : Nat
  length : Nat
  fault : Fault
deriving DecidableEq

namespace Diagnostic

/-- The text before the fault. -/
def before (diagnostic : Diagnostic) : List Char := diagnostic.text.take diagnostic.position

/-- The text from the fault on. -/
def after (diagnostic : Diagnostic) : List Char := diagnostic.text.drop diagnostic.position

/-- The number of the line of a fault, counted from 1. Only a line feed ends a line here. -/
def line (diagnostic : Diagnostic) : Nat := diagnostic.before.count '\n' + 1

/-- The part of the line of a fault that stands before it. -/
def lead (diagnostic : Diagnostic) : List Char :=
  (diagnostic.before.reverse.takeWhile (· != '\n')).reverse

/-- The column of a fault in its line, counted from 1. -/
def column (diagnostic : Diagnostic) : Nat := diagnostic.lead.length + 1

/-- The line of a fault with the line feed that ends it. -/
def fullLine (diagnostic : Diagnostic) : List Char :=
  diagnostic.lead ++ diagnostic.after.takeWhile (· != '\n') ++
    (diagnostic.after.dropWhile (· != '\n')).take 1

/-- A line break as a visible character. -/
def picture (c : Char) : Char :=
  if c == '\n' then '␊' else if c == '\r' then '␍' else c

/-- The line of a fault as it is shown: without line breaks, unless a section ends early at a line break.
    Then that is what is to be seen, and line breaks are shown as pictures. -/
def shownLine (diagnostic : Diagnostic) : List Char :=
  if diagnostic.fault.isSyntactic && diagnostic.after.head?.any isLineBreak then
    diagnostic.fullLine.map picture
  else diagnostic.fullLine.filter (!isLineBreak ·)

/-- The mark under the blamed characters: an arrow before what is missing, the two ends of what is there. -/
def mark (diagnostic : Diagnostic) : List Char :=
  if diagnostic.fault.isSyntactic then ['^', '-', '-', '-']
  else if diagnostic.length ≤ 1 then ['^']
  else '^' :: List.replicate (diagnostic.length - 2) '-' ++ ['^']

/-- The mark in its column. Tabs before it are kept, so that it stands right whatever their width. -/
def underline (diagnostic : Diagnostic) : List Char :=
  (diagnostic.shownLine.take (diagnostic.column - 1)).map (fun c => if c == '\t' then '\t' else ' ') ++
    diagnostic.mark

/-- The fault with its line, six lines in all. -/
def render (diagnostic : Diagnostic) : String :=
  let number := toString diagnostic.line
  let margin := String.ofList (List.replicate number.length ' ')
  "\n".intercalate
    [ margin ++ "--> " ++ number ++ ":" ++ toString diagnostic.column,
      margin ++ " |",
      number ++ " | " ++ String.ofList diagnostic.shownLine,
      margin ++ " | " ++ String.ofList diagnostic.underline,
      margin ++ " |",
      margin ++ " = " ++ diagnostic.fault.message ]

end Diagnostic

end Multitape.Description
