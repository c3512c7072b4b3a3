/-
Module: Multitape.Alphabet
Purpose: Finite sets of one-character symbols, kept in one canonical form.
Main exports:
  Alphabet, Alphabet.insert, Alphabet.extend, Alphabet.ofList, Alphabet.contains, Alphabet.render,
  mem_insert, mem_extend, mem_ofList, eq_of_mem_iff
-/
namespace Multitape

/-!
An alphabet is the ascending list of its symbols.  The ascending form is unique, so two alphabets are
equal exactly when they hold the same symbols, and every listing of an alphabet has a stable order
whatever order its symbols were declared in.
-/

/-- A read entry that matches every symbol. It is no tape symbol itself. -/
def wildcard : Char := '.'

/-- The blank of a program that declares none. -/
def defaultBlank : Char := '_'

/-- Put a symbol in its place in an ascending list. A symbol that is present already changes nothing. -/
def insertAscending (symbol : Char) : List Char → List Char
  | [] => [symbol]
  | first :: rest =>
      if symbol < first then symbol :: first :: rest
      else if symbol = first then first :: rest
      else first :: insertAscending symbol rest

/-- The new list holds the new symbol and the old ones. -/
theorem mem_insertAscending {symbol other : Char} {symbols : List Char} :
    other ∈ insertAscending symbol symbols ↔ other = symbol ∨ other ∈ symbols := by
  induction symbols with
  | nil => simp [insertAscending]
  | cons first rest ih =>
    unfold insertAscending
    split
    · simp
    · split
      · rename_i h
        subst h
        simp
      · simp only [List.mem_cons, ih]
        grind

/-- Insertion keeps the list ascending. -/
theorem insertAscending_pairwise (symbol : Char) {symbols : List Char}
    (ascending : symbols.Pairwise (· < ·)) : (insertAscending symbol symbols).Pairwise (· < ·) := by
  induction symbols with
  | nil => simp [insertAscending]
  | cons first rest ih =>
    have tail := List.pairwise_cons.1 ascending
    unfold insertAscending
    split
    · rename_i lower
      refine List.pairwise_cons.2 ⟨fun other mem => ?_, ascending⟩
      rcases List.mem_cons.1 mem with rfl | mem
      · exact lower
      · exact Char.lt_trans lower (tail.1 other mem)
    · split
      · exact ascending
      · rename_i notLower notEqual
        refine List.pairwise_cons.2 ⟨fun other mem => ?_, ih tail.2⟩
        rcases mem_insertAscending.1 mem with rfl | mem
        · rcases Nat.lt_trichotomy other.toNat first.toNat with below | same | above
          · exact absurd below notLower
          · exact absurd (Char.toNat_inj.1 same) notEqual
          · exact above
        · exact tail.1 other mem

/-- A finite set of symbols, listed by code point without repetition. -/
structure Alphabet where
  symbols : List Char
  ascending : symbols.Pairwise (· < ·)
deriving DecidableEq

namespace Alphabet

/-- The alphabet without symbols. -/
def empty : Alphabet := ⟨[], List.Pairwise.nil⟩

instance : Inhabited Alphabet := ⟨empty⟩

instance : Membership Char Alphabet := ⟨fun alphabet symbol => symbol ∈ alphabet.symbols⟩

/-- Add one symbol. Adding it twice is adding it once. -/
def insert (alphabet : Alphabet) (symbol : Char) : Alphabet :=
  ⟨insertAscending symbol alphabet.symbols, insertAscending_pairwise symbol alphabet.ascending⟩

/-- Add symbols one after the other. -/
def extend (alphabet : Alphabet) (symbols : List Char) : Alphabet :=
  symbols.foldl insert alphabet

/-- The alphabet of the symbols in a list. -/
def ofList (symbols : List Char) : Alphabet := empty.extend symbols

/-- Whether a symbol belongs to the alphabet. -/
def contains (alphabet : Alphabet) (symbol : Char) : Bool := alphabet.symbols.contains symbol

/-- The symbols, by code point. -/
def toList (alphabet : Alphabet) : List Char := alphabet.symbols

/-- How many symbols the alphabet has. -/
def size (alphabet : Alphabet) : Nat := alphabet.symbols.length

/-- Whether the alphabet has no symbols. -/
def isEmpty (alphabet : Alphabet) : Bool := alphabet.symbols.isEmpty

/-- The symbols between braces, separated by commas: `{a, b}`. -/
def render (alphabet : Alphabet) : String :=
  "\x7b" ++ ", ".intercalate (alphabet.symbols.map String.singleton) ++ "\x7d"

/-! ### Membership -/

theorem mem_def {alphabet : Alphabet} {symbol : Char} :
    symbol ∈ alphabet ↔ symbol ∈ alphabet.symbols := Iff.rfl

/-- `contains` decides membership. -/
@[simp] theorem contains_iff {alphabet : Alphabet} {symbol : Char} :
    alphabet.contains symbol = true ↔ symbol ∈ alphabet := by
  simp [contains, mem_def]

@[simp] theorem not_mem_empty {symbol : Char} : symbol ∉ empty := by
  simp [mem_def, empty]

@[simp] theorem mem_insert {alphabet : Alphabet} {symbol other : Char} :
    other ∈ alphabet.insert symbol ↔ other = symbol ∨ other ∈ alphabet :=
  mem_insertAscending

@[simp] theorem mem_extend {alphabet : Alphabet} {symbols : List Char} {other : Char} :
    other ∈ alphabet.extend symbols ↔ other ∈ symbols ∨ other ∈ alphabet := by
  induction symbols generalizing alphabet with
  | nil => simp [extend]
  | cons first rest ih =>
    have step : alphabet.extend (first :: rest) = (alphabet.insert first).extend rest := rfl
    rw [step, ih, mem_insert, List.mem_cons]
    grind

@[simp] theorem mem_ofList {symbols : List Char} {other : Char} :
    other ∈ ofList symbols ↔ other ∈ symbols := by
  simp [ofList]

/-! ### The canonical form -/

/-- Alphabets are equal if they hold the same symbols. -/
theorem eq_of_mem_iff {first second : Alphabet} (same : ∀ symbol, symbol ∈ first ↔ symbol ∈ second) :
    first = second := by
  have nodup : ∀ alphabet : Alphabet, alphabet.symbols.Nodup := fun alphabet =>
    alphabet.ascending.imp fun lower equal => absurd (equal ▸ lower) (Char.lt_irrefl _)
  have perm : first.symbols.Perm second.symbols :=
    (List.perm_ext_iff_of_nodup (nodup first) (nodup second)).2 same
  have equal : first.symbols = second.symbols := by
    apply List.Perm.eq_of_pairwise _ first.ascending second.ascending perm
    intro symbol other _ _ lower upper
    exact absurd (Char.lt_trans lower upper) (Char.lt_irrefl _)
  cases first
  cases second
  cases equal
  rfl

/-- An alphabet is that of its symbols. -/
theorem ofList_toList (alphabet : Alphabet) : ofList alphabet.toList = alphabet :=
  eq_of_mem_iff fun _ => mem_ofList

end Alphabet

end Multitape
