/-
Module: Multitape.Proofs.BundledTables
Purpose: The tables that the bundled descriptions stand for, written out, so that a rule can be looked up
  without reading a text.
Main exports: Catalog.firstZeroTable, Catalog.evenOnesTable, Catalog.anbnTable,
  Catalog.zerosOnesTable, Catalog.programs_eq, Catalog.programNamed_name
-/
import Multitape.Catalog

namespace Multitape.Catalog

/-- The table that looks at one symbol only. -/
def firstZeroTable : Program where
  name := "first-zero"
  states :=
    [ ⟨"q0", true, false, [⟨1, 0, 1, ['0'], ['0'], [.right]⟩]⟩,
      ⟨"q1", false, true, []⟩ ]
  inputAlphabet := Alphabet.ofList ['0', '1']
  tapeAlphabet := Alphabet.ofList ['0', '1', '_']
  blank := '_'
  tapeCount := 1
  initial := 0

/-- The table that keeps the parity of ones. -/
def evenOnesTable : Program where
  name := "even-ones"
  states :=
    [ ⟨"even", true, false,
        [ ⟨1, 0, 0, ['0'], ['0'], [.right]⟩,
          ⟨2, 0, 1, ['1'], ['1'], [.right]⟩,
          ⟨3, 0, 2, ['_'], ['_'], [.stay]⟩ ]⟩,
      ⟨"odd", false, false,
        [ ⟨4, 1, 1, ['0'], ['0'], [.right]⟩,
          ⟨5, 1, 0, ['1'], ['1'], [.right]⟩ ]⟩,
      ⟨"accept", false, true, []⟩ ]
  inputAlphabet := Alphabet.ofList ['0', '1']
  tapeAlphabet := Alphabet.ofList ['0', '1', '_']
  blank := '_'
  tapeCount := 1
  initial := 0

/-- The table that crosses off pairs. -/
def anbnTable : Program where
  name := "anbn"
  states :=
    [ ⟨"q0", true, false,
        [ ⟨1, 0, 1, ['a'], ['X'], [.right]⟩,
          ⟨2, 0, 3, ['Y'], ['Y'], [.right]⟩,
          ⟨3, 0, 4, ['_'], ['_'], [.stay]⟩ ]⟩,
      ⟨"q1", false, false,
        [ ⟨4, 1, 1, ['a'], ['a'], [.right]⟩,
          ⟨5, 1, 1, ['Y'], ['Y'], [.right]⟩,
          ⟨6, 1, 2, ['b'], ['Y'], [.left]⟩ ]⟩,
      ⟨"q2", false, false,
        [ ⟨7, 2, 2, ['a'], ['a'], [.left]⟩,
          ⟨8, 2, 2, ['Y'], ['Y'], [.left]⟩,
          ⟨9, 2, 0, ['X'], ['X'], [.right]⟩ ]⟩,
      ⟨"q3", false, false,
        [ ⟨10, 3, 3, ['Y'], ['Y'], [.right]⟩,
          ⟨11, 3, 4, ['_'], ['_'], [.stay]⟩ ]⟩,
      ⟨"q4", false, true, []⟩ ]
  inputAlphabet := Alphabet.ofList ['a', 'b']
  tapeAlphabet := Alphabet.ofList ['a', 'b', 'X', 'Y', '_']
  blank := '_'
  tapeCount := 1
  initial := 0

/-- The table that counts on a second tape. -/
def zerosOnesTable : Program where
  name := "zeros-ones"
  states :=
    [ ⟨"start", true, false,
        [ ⟨1, 0, 3, ['_', '_'], ['_', '_'], [.stay, .stay]⟩,
          ⟨2, 0, 1, ['0', '_'], ['0', 'X'], [.right, .right]⟩ ]⟩,
      ⟨"copy", false, false,
        [ ⟨3, 1, 1, ['0', '_'], ['0', 'X'], [.right, .right]⟩,
          ⟨4, 1, 2, ['1', '_'], ['1', '_'], [.stay, .left]⟩ ]⟩,
      ⟨"match", false, false,
        [ ⟨5, 2, 2, ['1', 'X'], ['1', 'X'], [.right, .left]⟩,
          ⟨6, 2, 3, ['_', '_'], ['_', '_'], [.stay, .stay]⟩ ]⟩,
      ⟨"accept", false, true, []⟩ ]
  inputAlphabet := Alphabet.ofList ['0', '1']
  tapeAlphabet := Alphabet.ofList ['0', '1', 'X', '_']
  blank := '_'
  tapeCount := 2
  initial := 0

/-! ### Reading the bundled descriptions -/

theorem toList_textOfLines (lines : List String) :
    (textOfLines lines).toList = lines.flatMap fun line => line.toList ++ ['\n'] := by
  simp [textOfLines, String.toList_join, List.flatMap_map]

/-- A description is read from the characters of its lines. On these the reader can be evaluated, which
    on a joined text takes too long. -/
theorem program?_mk (name : String) (lines : List String) :
    Entry.program? ⟨name, textOfLines lines⟩ =
      (Description.parseChars (lines.flatMap fun line => line.toList ++ ['\n'])).toOption.map
        (·.withName name) := by
  simp only [Entry.program?, Description.parse, toList_textOfLines]
  split <;> rename_i found <;> simp [found, Except.toOption]

theorem program?_firstZero : firstZero.program? = some firstZeroTable := by
  rw [firstZero, program?_mk]
  decide +kernel

theorem program?_evenOnes : evenOnes.program? = some evenOnesTable := by
  rw [evenOnes, program?_mk]
  decide +kernel

theorem program?_anbn : anbn.program? = some anbnTable := by
  rw [anbn, program?_mk]
  decide +kernel

theorem program?_zerosOnes : zerosOnes.program? = some zerosOnesTable := by
  rw [zerosOnes, program?_mk]
  decide +kernel

/-- The bundled programs are these tables. -/
theorem programs_eq : programs = [firstZeroTable, evenOnesTable, anbnTable, zerosOnesTable] := by
  rw [programs, entries, List.filterMap_cons_some program?_firstZero,
    List.filterMap_cons_some program?_evenOnes, List.filterMap_cons_some program?_anbn,
    List.filterMap_cons_some program?_zerosOnes, List.filterMap_nil]

/-- Every bundled program is found under its name. -/
theorem programNamed_name {program : Program} (bundled : program ∈ programs) :
    programNamed program.name = .ok program := by
  unfold programNamed
  rw [programs_eq] at bundled ⊢
  simp only [List.mem_cons, List.not_mem_nil, or_false] at bundled
  rcases bundled with rfl | rfl | rfl | rfl <;> rfl

end Multitape.Catalog
