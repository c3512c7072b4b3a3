/-
Module: Multitape.Text.Quoted
Purpose: Symbols and names in quotes, with characters that do not show written as escapes.
Main exports: Text.quoteSymbol, Text.quoteName, Text.quoteSymbols, Text.quoteNames
-/
import Multitape.Text.Seen

namespace Multitape.Text

/-!
A quoted symbol stands between single quotes and a quoted name between double quotes.  The backslash, the
line feed, the carriage return, the tab and the zero character have escapes of one letter; the quote is
escaped only where it would end the text.  A character that would not be seen by itself is written by its code
point in lower-case hexadecimal.
-/

/-- The digits of a number in lower-case hexadecimal. -/
def hexadecimal (n : Nat) : List Char := Nat.toDigits 16 n

/-- One character between quotes of a kind. -/
def escape (quote c : Char) : List Char :=
  if c == '\x00' then ['\\', '0']
  else if c == '\t' then ['\\', 't']
  else if c == '\n' then ['\\', 'n']
  else if c == '\r' then ['\\', 'r']
  else if c == '\\' || c == quote then ['\\', c]
  else if isSeen c then [c]
  else ['\\', 'u', '\x7b'] ++ hexadecimal c.toNat ++ ['\x7d']

/-- A symbol between single quotes. -/
def quoteSymbol (symbol : Char) : String := String.ofList ('\x27' :: escape '\x27' symbol ++ ['\x27'])

/-- A name between double quotes. -/
def quoteName (name : String) : String :=
  String.ofList ('\x22' :: name.toList.flatMap (escape '\x22') ++ ['\x22'])

/-- Texts between square brackets, separated by commas. -/
def bracketed (items : List String) : String := "[" ++ ", ".intercalate items ++ "]"

/-- A row of quoted symbols. -/
def quoteSymbols (symbols : List Char) : String := bracketed (symbols.map quoteSymbol)

/-- A row of quoted names. -/
def quoteNames (names : List String) : String := bracketed (names.map quoteName)

end Multitape.Text
