/-
Module: Multitape.Proofs.Tabulation
Purpose: A built table is what was declared, with everything in its place: states under their names,
  their flags, and every rule once, in the state where it starts and under the number of its
  declaration. The same table comes of adding the rules one by one to states without rules.
Main exports: Declarations.Tabulates, findState?_stateAt, stateAt_program, map_id_transitionsFrom,
  Declarations.filedStates, program_states_eq_filedStates, tabulates_of_build
-/
import Multitape.Proofs.Redeclaration

namespace Multitape

/-- A table holds what was declared, neither more nor less. -/
structure Declarations.Tabulates (declarations : Declarations) (program : Program) : Prop where
  states_eq : program.states.map State.name = declarations.states
  state_found : ∀ place < program.states.length,
    program.findState? (program.stateAt place).name = some place
  initial_lt : program.initial < program.states.length
  initial_eq : declarations.initial = some (program.stateAt program.initial).name
  initial_iff : ∀ place < program.states.length,
    ((program.stateAt place).initial = true ↔ place = program.initial)
  accepting_iff : ∀ name,
    name ∈ program.acceptingStates.map State.name ↔ name ∈ declarations.accepting
  accepting_ends : ∀ state ∈ program.acceptingStates,
    state.transitions = [] ∧ state.initial = false
  rule_placed : ∀ place, ∀ transition ∈ (program.stateAt place).transitions,
    transition.source = place ∧ transition.target < program.states.length
  ids_perm : (program.transitions.map Transition.id).Perm (List.range' 1 program.transitionCount)
  ids_increase : ∀ state ∈ program.states,
    state.transitions.Pairwise fun earlier later => earlier.id < later.id
  rules_eq : (Description.orderedRules program).map program.ruleDeclaration = declarations.rules

/-! ### What stands where -/

/-- A state is found at its place where no two states share a name. -/
theorem Program.findState?_stateAt {program : Program} (nodup : (program.states.map State.name).Nodup)
    {place : Nat} (bound : place < program.states.length) :
    program.findState? (program.stateAt place).name = some place := by
  rw [Program.findState?, List.findIdx?_eq_some_iff_getElem, Program.stateAt_eq_getElem bound]
  refine ⟨bound, beq_self_eq_true _, fun earlier before same => ?_⟩
  have different := List.pairwise_iff_getElem.1 (List.pairwise_map.1 nodup) earlier place
    (Nat.lt_trans before bound) bound before
  exact different (eq_of_beq same)

namespace Declarations

variable {declarations : Declarations}

/-- The state at any place is assembled from the name that was declared there. -/
theorem stateAt_program {place : Nat} (bound : place < declarations.states.length) :
    declarations.program.stateAt place = declarations.assembleState declarations.initialPlace
      declarations.transitions declarations.states[place] place := by
  simp [Program.stateAt, program, assemble, bound]

/-- The state at a place is the one whose name was declared there. -/
theorem place_name_stateAt (consistent : declarations.Consistent) {place : Nat}
    (bound : place < declarations.states.length) :
    declarations.place (declarations.program.stateAt place).name = place := by
  rw [stateAt_program bound]
  exact consistent.states_nodup.idxOf_getElem place bound

/-- No two states of a table share a name. -/
theorem state_eq_of_name_eq (consistent : declarations.Consistent) {first second : State}
    (firstMem : first ∈ declarations.program.states) (secondMem : second ∈ declarations.program.states)
    (same : first.name = second.name) : first = second := by
  have nodup : (declarations.program.states.map State.name).Nodup := by
    rw [map_name_program_states consistent.states_nodup]
    exact consistent.states_nodup
  exact List.inj_on_of_nodup_map nodup firstMem secondMem same

/-- Rules are numbered one after the other. -/
theorem map_id_transitionsFrom (id : Nat) (rules : List RuleDeclaration) :
    (declarations.transitionsFrom id rules).map Transition.id = List.range' id rules.length := by
  induction rules generalizing id with
  | nil => rfl
  | cons rule rules ih =>
      rw [transitionsFrom, List.map_cons, ih, List.length_cons, List.range'_succ]
      rfl

theorem ids_perm_program (consistent : declarations.Consistent) :
    (declarations.program.transitions.map Transition.id).Perm
      (List.range' 1 declarations.program.transitionCount) := by
  have perm := (program_transitions_perm consistent).map Transition.id
  have numbered : declarations.transitions.map Transition.id =
      List.range' 1 declarations.rules.length := map_id_transitionsFrom 1 declarations.rules
  have count : declarations.program.transitionCount = declarations.rules.length := by
    simpa [numbered, Program.transitionCount] using perm.length_eq
  rwa [numbered, ← count] at perm

/-- A state lists its rules in the order of their declaration. -/
theorem ids_increase_program (consistent : declarations.Consistent) {state : State}
    (mem : state ∈ declarations.program.states) :
    state.transitions.Pairwise fun earlier later => earlier.id < later.id := by
  rw [program_states consistent.states_nodup] at mem
  obtain ⟨name, -, rfl⟩ := List.mem_map.1 mem
  exact (transitionsFrom_pairwise 1 declarations.rules).filter _

/-- Only the state at the initial place is marked as initial. -/
theorem initial_stateAt_program {place : Nat} (bound : place < declarations.states.length) :
    (declarations.program.stateAt place).initial = true ↔ place = declarations.program.initial := by
  rw [stateAt_program bound]
  exact beq_iff_eq

/-! ### Filing rules one by one -/

/-- Changing entries one after the other changes each entry by what is meant for it, in that order. -/
theorem getElem?_foldl_modify {α β : Type} (key : α → Nat) (change : α → β → β) (items : List α)
    (entries : List β) (place : Nat) :
    (items.foldl (fun entries item => entries.modify (key item) (change item)) entries)[place]? =
      entries[place]?.map fun entry =>
        (items.filter (key · == place)).foldl (fun entry item => change item entry) entry := by
  induction items generalizing entries with
  | nil => simp
  | cons item items ih =>
      rw [List.foldl_cons, ih, List.getElem?_modify]
      by_cases here : key item = place <;> simp [here, Function.comp_def]

theorem foldl_setAccepting {α : Type} (items : List α) (state : State) :
    items.foldl (fun state _ => state.setAccepting) state =
      { state with accepting := state.accepting || !items.isEmpty } := by
  induction items generalizing state with
  | nil => simp
  | cons item items ih =>
      rw [List.foldl_cons, ih]
      simp [State.setAccepting]

theorem foldl_addTransition (transitions : List Transition) (state : State) :
    transitions.foldl State.addTransition state =
      { state with transitions := state.transitions ++ transitions } := by
  induction transitions generalizing state with
  | nil => simp
  | cons transition transitions ih =>
      rw [List.foldl_cons, ih]
      simp [State.addTransition]

/-- States as they are filled when the initial state and the accepting states are marked, and then each
    rule is added to the state where it starts. -/
def filedStates (declarations : Declarations) : List State :=
  let named := declarations.states.map State.named
  let started := named.modify declarations.initialPlace State.setInitial
  let marked := declarations.accepting.foldl
    (fun states name => states.modify (declarations.place name) State.setAccepting) started
  declarations.transitions.foldl
    (fun states transition => states.modify transition.source (·.addTransition transition)) marked

/-- A state is marked as accepting by no name but its own. -/
theorem filter_place_accepting (consistent : declarations.Consistent) (name : String) :
    (!(declarations.accepting.filter (declarations.place · == declarations.place name)).isEmpty) =
      declarations.accepting.contains name := by
  rw [Bool.eq_iff_iff, List.contains_iff_mem, Bool.not_eq_true', List.isEmpty_eq_false_iff_exists_mem]
  constructor
  · rintro ⟨other, marked⟩
    obtain ⟨accepting, same⟩ := List.mem_filter.1 marked
    have declared : other ∈ declarations.states := (consistent.accepting_mem other accepting).1
    exact (place_inj declared).1 (eq_of_beq same) ▸ accepting
  · intro accepting
    exact ⟨name, List.mem_filter.2 ⟨accepting, beq_self_eq_true _⟩⟩

/-- Parting the rules by their states is filing them one by one. -/
theorem program_states_eq_filedStates (consistent : declarations.Consistent) :
    declarations.program.states = declarations.filedStates := by
  apply List.ext_getElem?
  intro place
  unfold filedStates
  rw [getElem?_foldl_modify, getElem?_foldl_modify, List.getElem?_modify, List.getElem?_map,
    program_states consistent.states_nodup, List.getElem?_map]
  cases found : declarations.states[place]? with
  | none => rfl
  | some name =>
      obtain ⟨bound, rfl⟩ := List.getElem?_eq_some_iff.1 found
      have here : declarations.place declarations.states[place] = place :=
        consistent.states_nodup.idxOf_getElem place bound
      have accepts := filter_place_accepting consistent declarations.states[place]
      rw [here] at accepts
      simp only [Option.map_some, foldl_setAccepting, foldl_addTransition, accepts, stateOf, here]
      by_cases initial : declarations.initialPlace = place
      · simp [initial, assembleState, State.setInitial, State.named]
      · simp [initial, assembleState, State.named, Ne.symm initial]

/-! ### Built tables -/

/-- Consistent declarations make a table that holds them. -/
theorem Consistent.tabulates (consistent : declarations.Consistent) :
    declarations.Tabulates declarations.program := by
  have declared := declarations_program consistent
  have wellFormed := consistent.wellFormed
  have names := map_name_program_states consistent.states_nodup
  refine
    { states_eq := names
      state_found := fun place bound => Program.findState?_stateAt ?_ bound
      initial_lt := wellFormed.initial_lt
      initial_eq := (congrArg Declarations.initial declared).symm
      initial_iff := fun place bound => ?_
      accepting_iff := fun name => ?_
      accepting_ends := fun state mem => ?_
      rule_placed := fun place transition mem => ?_
      ids_perm := ids_perm_program consistent
      ids_increase := fun state mem => ids_increase_program consistent mem
      rules_eq := congrArg Declarations.rules declared }
  · exact names ▸ consistent.states_nodup
  · exact initial_stateAt_program (by simpa using bound)
  · have listed : declarations.program.acceptingStates.map State.name =
        declarations.relisted.accepting := congrArg Declarations.accepting declared
    rw [listed]
    exact mem_relisted_accepting_iff consistent name
  · obtain ⟨stateMem, accepting⟩ := List.mem_filter.1 mem
    refine ⟨wellFormed.accepting_rules state stateMem accepting, ?_⟩
    obtain ⟨place, bound, rfl⟩ := List.mem_iff_getElem.1 stateMem
    -- The only state that is marked as initial stands at the initial place, where none accepts.
    rw [← Program.stateAt_eq_getElem bound] at accepting ⊢
    rw [← Bool.not_eq_true, initial_stateAt_program (by simpa using bound)]
    rintro rfl
    exact Bool.noConfusion (accepting.symm.trans wellFormed.initial_not_accepting)
  · exact ⟨wellFormed.source_eq place transition mem, (wellFormed.fits mem).target_lt⟩

/-- However a table was declared, once it is built it holds what was declared. -/
theorem tabulates_of_build {list : List Declaration} {program : Program}
    (built : (ofList list).build = .ok program) : (ofList list).Tabulates program := by
  obtain ⟨consistent, rfl⟩ := build_eq_ok_iff.1 built
  exact consistent.tabulates

/-- Declarations of two states that take turns, with the rules of one between those of the other. The
    accepting state is declared last and twice accepting, and the first initial state is replaced. -/
def turns : List Declaration :=
  [ .rule ⟨"tock", ['0'], "tick", ['1'], [.left]⟩,
    .initial "tock",
    .states ["tick", "tock"],
    .rule ⟨"tick", ['.'], "tock", ['0'], [.right]⟩,
    .tapeAlphabet ['0', '1'],
    .rule ⟨"tock", ['1'], "stop", ['_'], [.stay]⟩,
    .accepting ["stop"],
    .rule ⟨"tick", ['_'], "tick", ['_'], [.right]⟩,
    .tapeAlphabet ['_', '0'],
    .states ["stop"],
    .accepting ["stop"],
    .initial "tick" ]

/-- The table of the two states. -/
def turnsTable : Program where
  name := "untitled"
  states :=
    [ ⟨"tick", true, false,
        [⟨2, 0, 1, ['.'], ['0'], [.right]⟩, ⟨4, 0, 0, ['_'], ['_'], [.right]⟩]⟩,
      ⟨"tock", false, false,
        [⟨1, 1, 0, ['0'], ['1'], [.left]⟩, ⟨3, 1, 2, ['1'], ['_'], [.stay]⟩]⟩,
      ⟨"stop", false, true, []⟩ ]
  inputAlphabet := Alphabet.empty
  tapeAlphabet := Alphabet.ofList ['0', '1', '_']
  blank := '_'
  tapeCount := 1
  initial := 0

theorem turns_tabulated :
    (ofList turns).build = .ok turnsTable ∧ (ofList turns).Tabulates turnsTable :=
  ⟨rfl, tabulates_of_build rfl⟩

end Declarations

end Multitape
