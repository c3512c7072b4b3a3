/-
Module: Multitape.Proofs.Warnings
Purpose: When each warning is given and what it lists. The list of unreachable states is exact: a state
  is listed if no declared rules lead to it from the initial one, and every search for such states, in
  whatever order it takes what is pending, comes to its end.
Main exports: mem_sortNames, sortNames_pairwise_lt, unreachableStates_mem_warnings_iff,
  deadEndStates_mem_warnings_iff, foreignInputSymbols_mem_warnings_iff, mem_unreachableNames_iff,
  unreachable_states_exact
-/
import Mathlib.Data.List.Permutation
import Mathlib.Data.String.Basic
import Multitape.Proofs.ReachableStates
import Multitape.Proofs.Tabulation

namespace Multitape

/-! ### Sorted names -/

@[simp] theorem mem_sortNames {names : List String} {name : String} :
    name ∈ sortNames names ↔ name ∈ names :=
  List.mem_mergeSort

theorem sortNames_eq_nil_iff {names : List String} : sortNames names = [] ↔ names = [] := by
  simp [List.eq_nil_iff_forall_not_mem]

/-- Sorted names ascend, and strictly if no name is repeated. -/
theorem sortNames_pairwise_lt {names : List String} (nodup : names.Nodup) :
    (sortNames names).Pairwise (· < ·) := by
  have ascending : (sortNames names).Pairwise (· ≤ ·) := pairwise_mergeSort_le id names
  have distinct : (sortNames names).Nodup := (List.mergeSort_perm names _).nodup_iff.2 nodup
  exact (ascending.and distinct).imp fun both => lt_of_le_of_ne both.1 both.2

/-! ### When a warning is given -/

namespace Program

variable {program : Program}

theorem mem_warnOf {α : Type} {warning : List α → Warning} {items : List α} {given : Warning} :
    given ∈ warnOf warning items ↔ items ≠ [] ∧ given = warning items := by
  unfold warnOf
  cases items with
  | nil => simp
  | cons first rest => simp

theorem noAcceptingStates_mem_warnings_iff :
    Warning.noAcceptingStates ∈ program.warnings ↔ program.acceptingStates = [] := by
  simp [warnings, mem_warnOf]

theorem unreachableStates_mem_warnings_iff {names : List String} :
    Warning.unreachableStates names ∈ program.warnings ↔
      program.unreachableNames ≠ [] ∧ names = sortNames program.unreachableNames := by
  simp [warnings, mem_warnOf, sortNames_eq_nil_iff]

theorem deadEndStates_mem_warnings_iff {names : List String} :
    Warning.deadEndStates names ∈ program.warnings ↔
      program.deadEndNames ≠ [] ∧ names = sortNames program.deadEndNames := by
  simp [warnings, mem_warnOf, sortNames_eq_nil_iff]

theorem foreignInputSymbols_mem_warnings_iff {symbols : List Char} :
    Warning.foreignInputSymbols symbols ∈ program.warnings ↔
      program.foreignInputSymbols ≠ [] ∧ symbols = program.foreignInputSymbols := by
  simp [warnings, mem_warnOf]

/-- A dead end is a state that does not accept and has no rules. -/
theorem mem_deadEndNames_iff {name : String} :
    name ∈ program.deadEndNames ↔ ∃ state ∈ program.states,
      state.accepting = false ∧ state.transitions = [] ∧ state.name = name := by
  simp [deadEndNames, and_assoc]

theorem mem_foreignInputSymbols_iff {symbol : Char} :
    symbol ∈ program.foreignInputSymbols ↔
      symbol ∈ program.inputAlphabet ∧ symbol ∉ program.tapeAlphabet := by
  simp [foreignInputSymbols, Alphabet.toList, Alphabet.mem_def, Alphabet.contains]

/-- Without a warning about input symbols, all of them are tape symbols. -/
theorem mem_tapeAlphabet_of_unwarned
    (unwarned : ∀ symbols, Warning.foreignInputSymbols symbols ∉ program.warnings) {symbol : Char}
    (mem : symbol ∈ program.inputAlphabet) : symbol ∈ program.tapeAlphabet := by
  by_contra refused
  have foreign := mem_foreignInputSymbols_iff.2 ⟨mem, refused⟩
  apply unwarned program.foreignInputSymbols
  exact foreignInputSymbols_mem_warnings_iff.2 ⟨List.ne_nil_of_mem foreign, rfl⟩

end Program

/-! ### Unreachable states -/

namespace Declarations

variable {declarations : Declarations}

/-- States are listed as unreachable in the order of their declaration, before they are sorted. -/
theorem unreachableNames_program (consistent : declarations.Consistent) :
    declarations.program.unreachableNames = declarations.states.filter
      fun name => declarations.place name ∉ declarations.program.reachable := by
  have names : declarations.states = (List.range declarations.program.states.length).map
      fun place => (declarations.program.stateAt place).name := by
    apply List.ext_getElem
    · simp
    · intro place lower upper
      simp [stateAt_program lower, assembleState]
  conv_rhs => rw [names, List.filter_map]
  unfold Program.unreachableNames Program.unexplored
  apply congrArg
  apply List.filter_congr
  intro place mem
  have bound : place < declarations.states.length := by simpa using mem
  simp [place_name_stateAt consistent bound]

/-- A state is unreachable if no declared rules lead to it from the initial one. -/
theorem mem_unreachableNames_iff (consistent : declarations.Consistent) {name : String} :
    name ∈ declarations.program.unreachableNames ↔
      name ∈ declarations.states ∧ ¬ declarations.Reaches name := by
  rw [unreachableNames_program consistent, List.mem_filter, decide_eq_true_eq]
  apply and_congr_right
  intro mem
  exact not_congr (place_mem_reachable_iff consistent mem)

theorem unreachableNames_nodup (consistent : declarations.Consistent) :
    declarations.program.unreachableNames.Nodup := by
  rw [unreachableNames_program consistent]
  exact consistent.states_nodup.filter _

end Declarations

/-- The analysis of unreachable states is exact and comes to an end. Whatever order a search takes its
    pending states in, it goes on while there are any, it makes no more rounds than there are rules, and
    one, and in the end it has found what the analysis calls reachable; the analysis makes one such
    search. A warning is given exactly if declared rules do not lead to every state from the initial
    one, and it lists the states to which they do not, by name and each once. -/
theorem unreachable_states_exact {declarations : Declarations} {program : Program}
    (built : declarations.build = .ok program) :
    (∀ count last, program.Rounds count (.start program) last →
      count ≤ program.transitionCount + 1 ∧
        (last.pending ≠ [] → ∃ next, program.Round last next) ∧
        (last.pending = [] → ∀ place, place ∈ last.found ↔ place ∈ program.reachable)) ∧
      (∃ count, program.Rounds count (.start program) ⟨program.reachable, []⟩) ∧
      ((∃ names, Warning.unreachableStates names ∈ program.warnings) ↔
        ∃ name ∈ declarations.states, ¬ declarations.Reaches name) ∧
      ∀ names, Warning.unreachableStates names ∈ program.warnings →
        names.Pairwise (· < ·) ∧
          ∀ name, name ∈ names ↔ name ∈ declarations.states ∧ ¬ declarations.Reaches name := by
  obtain ⟨consistent, rfl⟩ := Declarations.build_eq_ok_iff.1 built
  refine ⟨?_, Program.exists_rounds_reachable _, ?_, ?_⟩
  · intro count last rounds
    refine ⟨rounds.count_le, fun unfinished => Search.exists_round unfinished, ?_⟩
    intro done place
    exact (rounds.mem_found_iff done).trans Program.mem_reachable_iff.symm
  · simp only [Program.unreachableStates_mem_warnings_iff, exists_and_left, exists_eq, and_true]
    constructor
    · intro listed
      obtain ⟨name, mem⟩ := List.exists_mem_of_ne_nil _ listed
      exact ⟨name, (Declarations.mem_unreachableNames_iff consistent).1 mem⟩
    · rintro ⟨name, unreachable⟩
      exact List.ne_nil_of_mem ((Declarations.mem_unreachableNames_iff consistent).2 unreachable)
  · intro names given
    obtain ⟨-, rfl⟩ := Program.unreachableStates_mem_warnings_iff.1 given
    refine ⟨sortNames_pairwise_lt (Declarations.unreachableNames_nodup consistent), ?_⟩
    intro name
    rw [mem_sortNames]
    exact Declarations.mem_unreachableNames_iff consistent

/-- Declarations of a machine with a cycle, a loop and a rule that is declared twice over, and with two
    states that lead to each other and to all others, but to which nothing leads. -/
def Declarations.islands : Declarations where
  states := ["hub", "isle", "spoke", "atoll", "port"]
  inputAlphabet := Alphabet.ofList ['0']
  tapeAlphabet := Alphabet.ofList ['0', '_']
  initial := some "hub"
  accepting := ["port"]
  rules :=
    [ ⟨"hub", ['0'], "spoke", ['0'], [.right]⟩,
      ⟨"isle", ['0'], "atoll", ['0'], [.right]⟩,
      ⟨"spoke", ['0'], "hub", ['_'], [.left]⟩,
      ⟨"hub", ['.'], "hub", ['_'], [.right]⟩,
      ⟨"atoll", ['.'], "isle", ['0'], [.stay]⟩,
      ⟨"hub", ['0'], "spoke", ['0'], [.right]⟩,
      ⟨"isle", ['_'], "hub", ['0'], [.right]⟩,
      ⟨"spoke", ['_'], "port", ['_'], [.stay]⟩ ]

/-- The two states that nothing leads to are told, by name, and the others are reached. -/
theorem unreachable_states_of_islands :
    Declarations.islands.build = .ok Declarations.islands.program ∧
      Warning.unreachableStates ["atoll", "isle"] ∈ Declarations.islands.program.warnings ∧
      ["atoll", "isle"].Pairwise (· < ·) ∧
      (∀ name, name ∈ ["atoll", "isle"] ↔
        name ∈ Declarations.islands.states ∧ ¬ Declarations.islands.Reaches name) := by
  have built : Declarations.islands.build = .ok Declarations.islands.program := rfl
  have given : Declarations.islands.program.warnings =
      [.unreachableStates ["atoll", "isle"]] := by
    cbv
  have listed : Warning.unreachableStates ["atoll", "isle"] ∈
      Declarations.islands.program.warnings := by
    simp [given]
  obtain ⟨-, -, -, exact_list⟩ := unreachable_states_exact built
  exact ⟨built, listed, exact_list _ listed⟩

end Multitape
