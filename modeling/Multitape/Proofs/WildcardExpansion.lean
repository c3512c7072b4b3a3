/-
Module: Multitape.Proofs.WildcardExpansion
Purpose: The wildcard stands for the symbols of the tape alphabet and for nothing else. A rule with a
  wildcard may be replaced by copies of it, one for each symbol, in whatever order they are listed: one
  of the copies applies exactly where the rule did, because the tapes hold no other symbols.
Main exports: Transition.accepts_set_iff, RuleDeclaration.expand, Declarations.search_expand_related,
  Declarations.build_expand_runsAlike
-/
import Multitape.Proofs.AlikeTables

namespace Multitape

/-- A symbol in place of a wildcard is accepted where the wildcard was and the symbol stands on its
    tape. -/
theorem Transition.accepts_set_iff {entries symbols : List Char} {tape : Nat} {symbol : Char}
    (wild : entries[tape]? = some wildcard) (proper : symbol ≠ wildcard) :
    accepts (entries.set tape symbol) symbols = true ↔
      accepts entries symbols = true ∧ symbols[tape]? = some symbol := by
  have bound : tape < entries.length := (List.getElem?_eq_some_iff.1 wild).1
  rw [accepts_iff_getElem?, accepts_iff_getElem?, List.length_set, and_assoc]
  apply and_congr_right
  intro _
  constructor
  · intro accepted
    have here := accepted tape symbol (List.getElem?_set_self bound)
    refine ⟨?_, here.resolve_left proper⟩
    intro other entry listed
    by_cases same : tape = other
    · subst same
      exact Or.inl (Option.some.inj (listed.symm.trans wild))
    · exact accepted other entry ((List.getElem?_set_ne same).trans listed)
  · rintro ⟨accepted, scanned⟩ other entry listed
    by_cases same : tape = other
    · subst same
      rw [List.getElem?_set_self bound] at listed
      exact Or.inr (scanned.trans listed)
    · exact accepted other entry ((List.getElem?_set_ne same).symm.trans listed)

/-- Copies of a rule that read symbols on a tape, one each. -/
def RuleDeclaration.expand (rule : RuleDeclaration) (tape : Nat) (symbols : List Char) :
    List RuleDeclaration :=
  symbols.map fun symbol => { rule with read := rule.read.set tape symbol }

namespace Declarations

variable {declarations : Declarations} {rule : RuleDeclaration} {tape : Nat} {symbols : List Char}

/-- Copies with tape symbols fit as the rule did. -/
theorem Admits.expand (admits : declarations.Admits rule)
    (proper : ∀ symbol ∈ symbols, symbol ∈ declarations.tapeAlphabet) :
    ∀ copy ∈ rule.expand tape symbols, declarations.Admits copy := by
  intro copy mem
  obtain ⟨symbol, symbolMem, rfl⟩ := List.mem_map.1 mem
  exact
    { admits with
      read_length := List.length_set.trans admits.read_length
      read_mem := by
        intro entry entryMem
        rcases List.mem_or_eq_of_mem_set entryMem with old | rfl
        · exact admits.read_mem entry old
        · exact Or.inr (proper entry symbolMem) }

/-- Wherever the rule applies, a copy of it does, and nowhere else. It does not matter which. -/
theorem search_expand_related (admits : declarations.Admits rule)
    (foreign : wildcard ∉ declarations.tapeAlphabet) (wild : rule.read[tape]? = some wildcard)
    (complete : ∀ symbol, symbol ∈ symbols ↔ symbol ∈ declarations.tapeAlphabet)
    {number : Nat → Nat} {id other : Nat}
    (numbered : ∀ index < symbols.length, number (other + index) = id) {place : Nat}
    {scanned : List Char} (length : scanned.length = declarations.tapeCount)
    (known : ∀ symbol ∈ scanned, symbol ∈ declarations.tapeAlphabet) :
    Option.Rel (Transition.SameDeed number) (declarations.search place scanned id [rule])
      (declarations.search place scanned other (rule.expand tape symbols)) := by
  have copy_applies : ∀ symbol ∈ symbols,
      (declarations.Applies place scanned { rule with read := rule.read.set tape symbol } ↔
        declarations.Applies place scanned rule ∧ scanned[tape]? = some symbol) := by
    intro symbol mem
    have proper : symbol ≠ wildcard := by
      rintro rfl
      exact foreign ((complete wildcard).1 mem)
    unfold Applies
    rw [Transition.accepts_set_iff wild proper, and_assoc]
  by_cases applies : declarations.Applies place scanned rule
  · -- The symbol on the tape is of the alphabet, so there is a copy for it.
    have bound : tape < scanned.length := by
      have inside : tape < rule.read.length := (List.getElem?_eq_some_iff.1 wild).1
      rwa [admits.read_length, ← length] at inside
    have listed : scanned[tape]? = some scanned[tape] := List.getElem?_eq_getElem bound
    have member : scanned[tape] ∈ symbols := (complete _).2 (known _ (List.getElem_mem bound))
    cases found : declarations.search place scanned other (rule.expand tape symbols) with
    | none =>
        have refused := search_eq_none_iff.1 found _ (List.mem_map.2 ⟨_, member, rfl⟩)
        exact absurd ((copy_applies _ member).2 ⟨applies, listed⟩) refused
    | some transition =>
        obtain ⟨index, copy, standing, -, rfl⟩ := exists_of_search_eq_some found
        rw [RuleDeclaration.expand, List.getElem?_map, Option.map_eq_some_iff] at standing
        obtain ⟨symbol, at_index, rfl⟩ := standing
        have same := numbered index (List.getElem?_eq_some_iff.1 at_index).1
        rw [search, if_pos applies]
        exact .some ⟨same.symm, rfl, rfl, rfl⟩
  · have none : declarations.search place scanned other (rule.expand tape symbols) = none := by
      apply search_eq_none_iff.2
      intro copy mem
      obtain ⟨symbol, symbolMem, rfl⟩ := List.mem_map.1 mem
      intro copyApplies
      exact applies ((copy_applies symbol symbolMem).1 copyApplies).1
    rw [none, search, if_neg applies]
    exact .none

end Declarations

/-- The wildcard is short for the tape alphabet. Whatever rule of a table has a wildcard on a tape, it may
    be replaced, where it stands, by copies for the tape symbols, listed in any order. The table is built
    still. On every input both machines are loaded alike, every step answers the same, and after each
    they agree in the state, the tapes, the status and the counter; they agree in the last rule if the
    copies are counted as the rule and later rules are renumbered. -/
theorem wildcard_short_for_alphabet {declarations : Declarations} {program : Program}
    (built : declarations.build = .ok program) {before after : List RuleDeclaration}
    {rule : RuleDeclaration} (listed : declarations.rules = before ++ rule :: after) {tape : Nat}
    (wild : rule.read[tape]? = some wildcard) {symbols : List Char}
    (complete : ∀ symbol, symbol ∈ symbols ↔ symbol ∈ declarations.tapeAlphabet) :
    ∃ expanded,
      (declarations.withRules (before ++ rule.expand tape symbols ++ after)).build = .ok expanded ∧
      program.RunsAlike (Declarations.replacedNumber before.length symbols.length) expanded := by
  have consistent := (Declarations.build_eq_ok_iff.1 built).1
  have admits : declarations.Admits rule := by
    apply consistent.rules_admitted
    rw [listed]
    exact List.mem_append_right before List.mem_cons_self
  have count : (rule.expand tape symbols).length = symbols.length := List.length_map _
  rw [← count]
  apply Declarations.build_replaced_runsAlike built listed
  · apply admits.expand
    intro symbol mem
    exact (complete symbol).1 mem
  · intro place scanned length known _
    apply Declarations.search_expand_related admits consistent.wildcard_not_mem wild complete ?_
      length known
    intro index bound
    rw [count]
    exact Declarations.replacedNumber_row bound

/-- The machine that marks zeros ends its scan by a rule with a wildcard. Three rules may stand for it,
    although two of them are for symbols that the rule before it has taken already. -/
theorem marker_scans_without_wildcard :
    Declarations.marker.build = .ok Declarations.marker.program ∧
      (∀ symbol, symbol ∈ ['_', '1', '0'] ↔ symbol ∈ Declarations.marker.tapeAlphabet) ∧
      ∃ expanded,
        (Declarations.marker.withRules
          [ ⟨"scan", ['0', '.'], "scan", ['0', '1'], [.right, .right]⟩,
            ⟨"scan", ['_', '_'], "back", ['_', '_'], [.stay, .left]⟩,
            ⟨"scan", ['1', '_'], "back", ['_', '_'], [.stay, .left]⟩,
            ⟨"scan", ['0', '_'], "back", ['_', '_'], [.stay, .left]⟩,
            ⟨"back", ['.', '1'], "back", ['_', '1'], [.left, .left]⟩,
            ⟨"back", ['.', '_'], "done", ['_', '_'], [.stay, .stay]⟩ ]).build = .ok expanded ∧
        Declarations.marker.program.RunsAlike (Declarations.replacedNumber 1 3) expanded := by
  have complete : ∀ symbol,
      symbol ∈ ['_', '1', '0'] ↔ symbol ∈ Declarations.marker.tapeAlphabet := by
    intro symbol
    have declared : symbol ∈ Declarations.marker.tapeAlphabet ↔ symbol ∈ ['0', '1', '_'] :=
      Alphabet.mem_ofList
    rw [declared]
    grind
  have listed : Declarations.marker.rules =
      [⟨"scan", ['0', '.'], "scan", ['0', '1'], [.right, .right]⟩] ++
        ⟨"scan", ['.', '_'], "back", ['_', '_'], [.stay, .left]⟩ ::
        [ ⟨"back", ['.', '1'], "back", ['_', '1'], [.left, .left]⟩,
          ⟨"back", ['.', '_'], "done", ['_', '_'], [.stay, .stay]⟩ ] := rfl
  have wild : ['.', '_'][0]? = some wildcard := rfl
  refine ⟨Declarations.marker_build, complete, ?_⟩
  exact wildcard_short_for_alphabet Declarations.marker_build listed wild complete

end Multitape
