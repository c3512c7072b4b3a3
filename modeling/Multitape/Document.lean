/-
Module: Multitape.Document
Purpose: Structured data for exchange, and its text over several lines.
Main exports: Document, Document.natural, Document.symbol, Document.pretty
-/
namespace Multitape

/-- A piece of structured data. A number is a decimal fraction: its digits, and how many of them stand
    behind the point. -/
inductive Document where
  | null
  | flag (value : Bool)
  | number (digits : Int) (places : Nat)
  | text (value : String)
  | list (items : List Document)
  | record (fields : List (String × Document))

namespace Document

instance : Inhabited Document := ⟨null⟩

/-- A natural number. -/
def natural (n : Nat) : Document := number n 0

/-- A symbol is a text of one character. -/
def symbol (c : Char) : Document := text c.toString

/-- A row of symbols. -/
def symbols (cs : List Char) : Document := list (cs.map symbol)

/-- A row of texts. -/
def texts (values : List String) : Document := list (values.map text)

/-- A value that may be absent. -/
def option {α : Type} (encode : α → Document) : Option α → Document
  | none => null
  | some value => encode value

/-! ### Text -/

/-- A character between double quotes. Quotes, backslashes and controls are escaped, everything else is
    written as it is. -/
def escape (c : Char) : List Char :=
  if c == '\x22' then ['\\', '\x22']
  else if c == '\\' then ['\\', '\\']
  else if c == '\n' then ['\\', 'n']
  else if c == '\r' then ['\\', 'r']
  else if c == '\t' then ['\\', 't']
  else if c == '\x08' then ['\\', 'b']
  else if c == '\x0C' then ['\\', 'f']
  else if c.toNat < 0x20 then ['\\', 'u', '0', '0', Nat.digitChar (c.toNat / 16), Nat.digitChar (c.toNat % 16)]
  else [c]

/-- A text between double quotes. -/
def quoted (value : String) : String :=
  String.ofList ('\x22' :: value.toList.flatMap escape ++ ['\x22'])

/-- A number with its point, if it has one. -/
def decimal (digits : Int) (places : Nat) : String :=
  if places = 0 then toString digits
  else
    let magnitude := (toString digits.natAbs).toList
    let padded := List.replicate (places + 1 - magnitude.length) '0' ++ magnitude
    (if digits < 0 then "-" else "") ++ String.ofList (padded.take (padded.length - places)) ++ "." ++
      String.ofList (padded.drop (padded.length - places))

/-- The spaces before a line of some depth. -/
def indent (depth : Nat) : String := String.ofList (List.replicate (2 * depth) ' ')

/-- Lines between an opening and a closing mark, one step deeper than these, with commas between them.
    Without lines the marks stand together. -/
def block (depth : Nat) (opening closing : String) (lines : List String) : String :=
  if lines.isEmpty then opening ++ closing
  else
    opening ++ "\n" ++ ",\n".intercalate (lines.map (indent (depth + 1) ++ ·)) ++ "\n" ++ indent depth ++
      closing

mutual

/-- The text of a document whose first line stands at some depth. -/
def prettyAt (depth : Nat) : Document → String
  | null => "null"
  | flag true => "true"
  | flag false => "false"
  | number digits places => decimal digits places
  | text value => quoted value
  | list items => block depth "[" "]" (prettyItems (depth + 1) items)
  | record fields => block depth "\x7b" "\x7d" (prettyFields (depth + 1) fields)

/-- The texts of the items of a list. -/
def prettyItems (depth : Nat) : List Document → List String
  | [] => []
  | item :: items => prettyAt depth item :: prettyItems depth items

/-- The texts of the fields of a record, each after its name. -/
def prettyFields (depth : Nat) : List (String × Document) → List String
  | [] => []
  | (name, value) :: fields =>
      (quoted name ++ ": " ++ prettyAt depth value) :: prettyFields depth fields

end

/-- The text of a document, two spaces deeper for each level. -/
def pretty (document : Document) : String := prettyAt 0 document

end Document

end Multitape
