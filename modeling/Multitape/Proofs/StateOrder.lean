/-
Module: Multitape.Proofs.StateOrder
Purpose: The order in which states are declared has no effect, although rules, machines and the search
  for reachable states know states by their places. Declarations with the states in another order are a
  translation in which all words stay and only places move; what is told about a table is sorted by
  names, so it does not show the places.
Main exports: sortNames_eq_of_perm, Translated.states_program_perm, Declarations.withStates,
  translated_withStates, summary_withStates, warnings_withStates, Machine.SeenAlike,
  state_order_immaterial
-/
import Multitape.Proofs.TranslatedRuns
import Multitape.Proofs.Warnings
import Multitape.Trace

namespace Multitape

/-! ### Sorted names -/

theorem sortNames_eq_of_perm {names others : List String} (perm : names.Perm others) :
    sortNames names = sortNames others :=
  mergeSort_eq_of_perm id perm fun _ _ _ _ same => same

/-! ### Tables -/

namespace Declarations

variable {translation : Translation} {first second : Declarations}

/-- A translated table has the translated states, in whatever order. -/
theorem Translated.states_program_perm (translated : first.Translated translation second)
    (consistent : first.Consistent) :
    second.program.states.Perm (first.program.states.map
      (translation.state (movedPlace translation first second))) := by
  have nodup := (translated.consistent_iff.2 consistent).states_nodup
  have moved := translated.states_perm.map second.stateOf
  have same : (first.states.map translation.name).map second.stateOf =
      (first.states.map first.stateOf).map
        (translation.state (movedPlace translation first second)) := by
    rw [List.map_map, List.map_map]
    apply List.map_congr_left
    intro name mem
    exact translated.stateOf_eq consistent mem
  rwa [same, ← program_states nodup, ← program_states consistent.states_nodup] at moved

/-! ### The same declarations in another order -/

/-- The same declarations with the states in another order. -/
def withStates (declarations : Declarations) (states : List String) : Declarations :=
  { declarations with states := states }

variable {declarations : Declarations} {states : List String}

theorem translated_withStates (reordered : states.Perm declarations.states) :
    declarations.Translated .identity (declarations.withStates states) := by
  have rules : declarations.rules.map Translation.identity.rule = declarations.rules := by
    have same : Translation.identity.rule = id := by
      funext rule
      simp only [Translation.rule, Translation.word_identity]
      rfl
    rw [same, List.map_id]
  exact
    { states_perm := by simpa [Translation.identity, withStates] using reordered
      inputAlphabet_eq := (Translation.alphabet_identity _).symm
      tapeAlphabet_eq := (Translation.alphabet_identity _).symm
      blank_eq := rfl
      tapeCount_eq := rfl
      initial_eq := by simp [Translation.identity, withStates]
      accepting_eq := by simp [Translation.identity, withStates]
      rules_eq := rules.symm }

/-- Where the state of a place stands in the other order. -/
def relocated (declarations : Declarations) (states : List String) : Nat → Nat :=
  movedPlace .identity declarations (declarations.withStates states)

section Reordered

variable (reordered : states.Perm declarations.states) (consistent : declarations.Consistent)

include reordered consistent

theorem consistent_withStates : (declarations.withStates states).Consistent :=
  (translated_withStates reordered).consistent_iff.2 consistent

theorem program_withStates_translated :
    declarations.program.Translated .identity (declarations.relocated states)
      (declarations.withStates states).program :=
  (translated_withStates reordered).program_translated consistent

theorem states_withStates_perm :
    (declarations.withStates states).program.states.Perm
      (declarations.program.states.map (Translation.identity.state (declarations.relocated states))) :=
  (translated_withStates reordered).states_program_perm consistent

/-- A state keeps its name when it moves. -/
theorem name_stateAt_relocated {place : Nat} (bound : place < declarations.program.states.length) :
    ((declarations.withStates states).program.stateAt (declarations.relocated states place)).name =
      (declarations.program.stateAt place).name := by
  rw [(program_withStates_translated reordered consistent).stateAt_eq place bound]
  rfl

/-! ### What is told about a table -/

/-- A rule is told by the names of its states. -/
theorem ofTransition_withStates {state : State} (stateMem : state ∈ declarations.program.states)
    {transition : Transition} (mem : transition ∈ state.transitions) :
    RuleLine.ofTransition (declarations.withStates states).program
        (Translation.identity.transition (declarations.relocated states) transition) =
      RuleLine.ofTransition declarations.program transition := by
  have wellFormed := consistent.wellFormed
  have target := (wellFormed.rules_fit state stateMem transition mem).target_lt
  have source : transition.source < declarations.program.states.length := by
    obtain ⟨place, bound, rfl⟩ := List.mem_iff_getElem.1 stateMem
    rw [← Program.stateAt_eq_getElem bound] at mem
    rw [wellFormed.source_eq place transition mem]
    exact bound
  simp only [RuleLine.ofTransition, Translation.transition, Translation.word_identity,
    name_stateAt_relocated reordered consistent source,
    name_stateAt_relocated reordered consistent target]

/-- States are told in the order of their names. -/
theorem sortStates_withStates :
    Summary.sortStates (declarations.withStates states).program.states =
      (Summary.sortStates declarations.program.states).map
        (Translation.identity.state (declarations.relocated states)) := by
  have others := consistent_withStates reordered consistent
  have distinct : ∀ a ∈ (declarations.withStates states).program.states,
      ∀ b ∈ (declarations.withStates states).program.states, a.name = b.name → a = b :=
    fun a aMem b bMem same => state_eq_of_name_eq others aMem bMem same
  have sorted := mergeSort_eq_of_perm State.name (states_withStates_perm reordered consistent)
    distinct
  rw [Summary.sortStates, sorted, Summary.sortStates, List.map_mergeSort]
  intro a _ b _
  rfl

/-- The same is told about both tables. -/
theorem summary_withStates (current : String) :
    Summary.ofProgram (declarations.withStates states).program current =
      Summary.ofProgram declarations.program current := by
  have initial : ((declarations.withStates states).program.stateAt
      (declarations.withStates states).program.initial).name =
        (declarations.program.stateAt declarations.program.initial).name := by
    rw [(program_withStates_translated reordered consistent).initial_eq]
    exact name_stateAt_relocated reordered consistent consistent.wellFormed.initial_lt
  have rules : ∀ state ∈ Summary.sortStates declarations.program.states,
      (state.transitions.map
          (Translation.identity.transition (declarations.relocated states))).map
            (RuleLine.ofTransition (declarations.withStates states).program) =
        state.transitions.map (RuleLine.ofTransition declarations.program) := by
    intro state mem
    rw [List.map_map]
    apply List.map_congr_left
    intro transition transitionMem
    exact ofTransition_withStates reordered consistent (List.mem_mergeSort.1 mem) transitionMem
  unfold Summary.ofProgram
  simp only [sortStates_withStates reordered consistent, initial, List.map_map, List.filter_map]
  congr 1
  apply List.map_congr_left
  intro state mem
  exact congrArg (StateRules.mk state.name) (rules state mem)

/-! ### Warnings -/

theorem acceptingStates_withStates_perm :
    (declarations.withStates states).program.acceptingStates.Perm
      (declarations.program.acceptingStates.map
        (Translation.identity.state (declarations.relocated states))) := by
  have filtered := (states_withStates_perm reordered consistent).filter State.accepting
  rwa [List.filter_map] at filtered

theorem deadEndNames_withStates_perm :
    (declarations.withStates states).program.deadEndNames.Perm
      declarations.program.deadEndNames := by
  have filtered := ((states_withStates_perm reordered consistent).filter fun state =>
    !state.accepting && state.transitions.isEmpty).map State.name
  rw [List.filter_map, List.map_map] at filtered
  simpa [Program.deadEndNames, Function.comp_def, Translation.state, Translation.identity]
    using filtered

/-- The same declared rules lead to the same states, wherever these stand. -/
theorem unreachableNames_withStates_perm :
    (declarations.withStates states).program.unreachableNames.Perm
      declarations.program.unreachableNames := by
  -- The searches go through other places in another order, but both find what declared rules lead to,
  -- and that says nothing of places.
  have others := consistent_withStates reordered consistent
  refine (List.perm_ext_iff_of_nodup (unreachableNames_nodup others)
    (unreachableNames_nodup consistent)).2 fun name => ?_
  rw [mem_unreachableNames_iff others, mem_unreachableNames_iff consistent]
  exact and_congr_left' reordered.mem_iff

/-- The same warnings are given about both tables, with the same items. -/
theorem warnings_withStates :
    (declarations.withStates states).program.warnings = declarations.program.warnings := by
  have accepting := (acceptingStates_withStates_perm reordered consistent).isEmpty_eq
  rw [List.isEmpty_map] at accepting
  have unreachable := sortNames_eq_of_perm (unreachableNames_withStates_perm reordered consistent)
  have deadEnds := sortNames_eq_of_perm (deadEndNames_withStates_perm reordered consistent)
  unfold Program.warnings
  rw [accepting, unreachable, deadEnds]
  rfl

end Reordered

end Declarations

/-! ### Machines -/

namespace Machine

/-- Two machines have states of one name, the same last rule, counter and status, and the same tapes. -/
structure SeenAlike (first second : Machine) : Prop where
  name_eq : second.currentState.name = first.currentState.name
  lastTransition_eq : second.lastTransition = first.lastTransition
  stepCount_eq : second.stepCount = first.stepCount
  status_eq : second.status = first.status
  tapes_eq : second.tapes = first.tapes

/-- Machines that are translations of each other without any word being changed are seen alike. -/
theorem Translated.seenAlike {move : Nat → Nat} {program other : Program} {first second : Machine}
    (tables : program.Translated .identity move other)
    (translated : Translated .identity move program other first second) :
    first.SeenAlike second where
  name_eq := by
    rw [translated.currentState_eq tables]
    rfl
  lastTransition_eq := translated.lastTransition_eq
  stepCount_eq := translated.stepCount_eq
  status_eq := by simpa using translated.status_eq
  tapes_eq := by simpa using translated.tapes_eq

/-- The order in which states are declared has no effect. If a program comes of declarations, one comes of
    them with the states in any other order. The same is told about both, the same warnings are given,
    and fresh machines of both answer alike to every input and to every step, and are seen alike after
    any number of steps. -/
theorem state_order_immaterial {declarations : Declarations} {states : List String}
    (reordered : states.Perm declarations.states) :
    ((∃ other, (declarations.withStates states).build = .ok other) ↔
      ∃ program, declarations.build = .ok program) ∧
    ∀ program other, declarations.build = .ok program →
      (declarations.withStates states).build = .ok other →
        (ofProgram other).summary = (ofProgram program).summary ∧
        other.warnings = program.warnings ∧
        ∀ input : List Char,
          ((ofProgram other).start input).2 = ((ofProgram program).start input).2 ∧
          ∀ count,
            (stepTimes count ((ofProgram other).start input).1).step.2 =
                (stepTimes count ((ofProgram program).start input).1).step.2 ∧
              (stepTimes count ((ofProgram program).start input).1).SeenAlike
                (stepTimes count ((ofProgram other).start input).1) := by
  refine ⟨(Declarations.translated_withStates reordered).builds_iff, ?_⟩
  intro program other built otherBuilt
  obtain ⟨consistent, rfl⟩ := Declarations.build_eq_ok_iff.1 built
  obtain ⟨-, rfl⟩ := Declarations.build_eq_ok_iff.1 otherBuilt
  have tables := Declarations.program_withStates_translated reordered consistent
  refine ⟨?_, Declarations.warnings_withStates reordered consistent, fun input => ?_⟩
  · have fresh := translated_ofProgram tables consistent.wellFormed
    rw [summary, summary, (fresh.seenAlike tables).name_eq]
    exact Declarations.summary_withStates reordered consistent _
  · obtain ⟨answers, runs⟩ := translated_runs tables consistent.wellFormed input
    rw [Translation.word_identity, Translation.answer_identity] at answers
    refine ⟨answers, fun count => ?_⟩
    obtain ⟨steps, stands⟩ := runs count
    rw [Translation.word_identity] at steps stands
    rw [Translation.rejection_identity, Step.retell_id] at steps
    exact ⟨steps, stands.seenAlike tables⟩

/-- The states of the islands from the last one to the first. -/
def islandsReversed : Declarations :=
  Declarations.islands.withStates ["port", "spoke", "atoll", "isle", "hub"]

/-- With its states declared the other way round, the machine with the islands starts at another place,
    and nothing else shows of it. -/
theorem state_order_immaterial_for_islands :
    ["port", "spoke", "atoll", "isle", "hub"].Perm Declarations.islands.states ∧
      Declarations.islands.build = .ok Declarations.islands.program ∧
      islandsReversed.build = .ok islandsReversed.program ∧
      islandsReversed.program.initial = 4 ∧ Declarations.islands.program.initial = 0 ∧
      (ofProgram islandsReversed.program).summary =
        (ofProgram Declarations.islands.program).summary ∧
      islandsReversed.program.warnings = Declarations.islands.program.warnings ∧
      ∀ count,
        (stepTimes count ((ofProgram Declarations.islands.program).start ['0', '0']).1).SeenAlike
          (stepTimes count ((ofProgram islandsReversed.program).start ['0', '0']).1) := by
  have reordered : ["port", "spoke", "atoll", "isle", "hub"].Perm Declarations.islands.states := by
    decide
  have built : Declarations.islands.build = .ok Declarations.islands.program := rfl
  have otherBuilt : islandsReversed.build = .ok islandsReversed.program := rfl
  obtain ⟨-, alike⟩ := state_order_immaterial reordered
  obtain ⟨told, warned, runs⟩ := alike _ _ built otherBuilt
  exact ⟨reordered, built, otherBuilt, rfl, rfl, told, warned,
    fun count => ((runs ['0', '0']).2 count).2⟩

end Machine

end Multitape
