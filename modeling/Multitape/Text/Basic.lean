/-
Module: Multitape.Text.Basic
Purpose: White space at the ends of a text, numerals, and columns.
Main exports: Text.isWhiteSpace, Text.trim, Text.numeral, Text.wordBound, Text.column
-/
namespace Multitape.Text

/-! ### White space -/

/-- The characters with the Unicode property White_Space: six controls, the space, and the separators. The
    zero width space and the byte order mark do not have it. -/
def isWhiteSpace (c : Char) : Bool :=
  let code := c.toNat
  (0x09 ≤ code && code ≤ 0x0D) || code == 0x20 || code == 0x85 || code == 0xA0 || code == 0x1680 ||
    (0x2000 ≤ code && code ≤ 0x200A) || code == 0x2028 || code == 0x2029 || code == 0x202F ||
    code == 0x205F || code == 0x3000

/-- Drop white space at both ends. -/
def trim (cs : List Char) : List Char :=
  ((cs.dropWhile isWhiteSpace).reverse.dropWhile isWhiteSpace).reverse

/-! ### Numerals -/

/-- The number that decimal digits denote. Leading zeros do not count, and no digits denote zero. -/
def numeral (digits : List Char) : Nat :=
  digits.foldl (fun (value : Nat) digit => 10 * value + (digit.toNat - '0'.toNat)) 0

/-- Counts and places are numbers of 64 bits: this is the first that is not. -/
def wordBound : Nat := 18446744073709551616

/-! ### Columns -/

/-- A text with spaces after it up to a width, counted in characters. A text that is as wide already stays
    as it is. -/
def column (width : Nat) (text : String) : String :=
  text ++ String.ofList (List.replicate (width - text.length) ' ')

end Multitape.Text
