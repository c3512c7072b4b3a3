/-
Module: Multitape.Proofs.SummaryRoundTrip
Purpose: What is told about a program is all of it but the order of its states. A summary lists every
  state and every rule once, its parts declare a table of which the same is told, and two tables of which
  the same is told differ at most in the places of their states.
Main exports: Summary.Lists, Summary.declarations, StateProfile, Program.SameButOrder,
  lists_ofProgram, build_declarations_ofProgram, profiles_ofProgram,
  ofProgram_eq_of_sameButOrder, sameButOrder_of_ofProgram_eq, Summary.loses_only_state_order
-/
import Multitape.Proofs.DeclarationOrder
import Multitape.Proofs.StateOrder

namespace Multitape

/-! ### What a summary lists -/

namespace Summary

/-- The rules of all states, state after state. -/
def listedRules (summary : Summary) : List RuleLine := summary.rules.flatMap StateRules.rules

/-- A summary lists the table of a program: every state once, in the order of the names, and every rule
    once, with the state where it starts, in the order of the numbers. The names in a rule are those of
    the states that it leads from and to. -/
structure Lists (summary : Summary) (program : Program) : Prop where
  states_increase : summary.states.Pairwise (· < ·)
  states_perm : summary.states.Perm (program.states.map State.name)
  entries_eq : summary.rules.map StateRules.state = summary.states
  rules_perm : summary.listedRules.Perm (program.transitions.map (RuleLine.ofTransition program))
  ids_nodup : (summary.listedRules.map RuleLine.id).Nodup
  ids_increase : ∀ entry ∈ summary.rules,
    entry.rules.Pairwise fun earlier later => earlier.id < later.id
  sources_eq : ∀ entry ∈ summary.rules, ∀ line ∈ entry.rules, line.source = entry.state
  resolved : ∀ transition ∈ program.transitions,
    program.findState? (RuleLine.ofTransition program transition).source = some transition.source ∧
      program.findState? (RuleLine.ofTransition program transition).target = some transition.target

variable {declarations : Declarations} (current : String)

theorem states_ofProgram (program : Program) :
    (ofProgram program current).states = sortNames (program.states.map State.name) :=
  List.map_mergeSort fun _ _ _ _ => rfl

theorem listedRules_ofProgram (program : Program) :
    (ofProgram program current).listedRules =
      ((sortStates program.states).flatMap State.transitions).map (RuleLine.ofTransition program) := by
  simp only [listedRules, ofProgram, List.flatMap_map, List.map_flatMap]

theorem listedRules_perm (program : Program) :
    (ofProgram program current).listedRules.Perm
      (program.transitions.map (RuleLine.ofTransition program)) := by
  rw [listedRules_ofProgram]
  exact ((List.mergeSort_perm program.states _).flatMap_right State.transitions).map _

theorem accepting_ofProgram_perm (program : Program) :
    (ofProgram program current).accepting.Perm (program.acceptingStates.map State.name) :=
  ((List.mergeSort_perm program.states _).filter State.accepting).map State.name

/-- An entry of a summary is what is told of a state of the table. -/
theorem exists_place_of_mem_rules {program : Program} {entry : StateRules}
    (mem : entry ∈ (ofProgram program current).rules) :
    ∃ place < program.states.length,
      entry = ⟨(program.stateAt place).name,
        (program.stateAt place).transitions.map (RuleLine.ofTransition program)⟩ := by
  obtain ⟨state, stateMem, rfl⟩ := List.mem_map.1 mem
  obtain ⟨place, bound, rfl⟩ := List.mem_iff_getElem.1 (List.mem_mergeSort.1 stateMem)
  exact ⟨place, bound, by rw [Program.stateAt_eq_getElem bound]⟩

/-- A summary of a built table lists it. -/
theorem lists_ofProgram (consistent : declarations.Consistent) :
    (ofProgram declarations.program current).Lists declarations.program := by
  have tabulates := consistent.tabulates
  refine
    { states_increase := ?_
      states_perm := ?_
      entries_eq := List.map_map
      rules_perm := listedRules_perm current declarations.program
      ids_nodup := ?_
      ids_increase := fun entry mem => ?_
      sources_eq := fun entry mem line lineMem => ?_
      resolved := fun transition mem => ?_ }
  · rw [states_ofProgram, tabulates.states_eq]
    exact sortNames_pairwise_lt consistent.states_nodup
  · rw [states_ofProgram]
    exact List.mergeSort_perm _ _
  · have told := (listedRules_perm current declarations.program).map RuleLine.id
    rw [List.map_map] at told
    exact (told.trans tabulates.ids_perm).nodup_iff.2 List.nodup_range'
  · obtain ⟨place, bound, rfl⟩ := exists_place_of_mem_rules current mem
    exact List.pairwise_map.2 (tabulates.ids_increase _ (Program.stateAt_mem bound))
  · obtain ⟨place, bound, rfl⟩ := exists_place_of_mem_rules current mem
    obtain ⟨transition, transitionMem, rfl⟩ := List.mem_map.1 lineMem
    have here := (tabulates.rule_placed place transition transitionMem).1
    exact congrArg (fun source => (declarations.program.stateAt source).name) here
  · obtain ⟨state, stateMem, starts⟩ := List.mem_flatMap.1 mem
    obtain ⟨place, bound, rfl⟩ := List.mem_iff_getElem.1 stateMem
    rw [← Program.stateAt_eq_getElem bound] at starts
    obtain ⟨here, target⟩ := tabulates.rule_placed place transition starts
    exact ⟨tabulates.state_found _ (here ▸ bound), tabulates.state_found _ target⟩

end Summary

/-! ### What a summary declares -/

/-- The declaration of a rule that is told. -/
def RuleLine.declaration (line : RuleLine) : RuleDeclaration where
  source := line.source
  read := line.read
  target := line.target
  write := line.write
  directions := line.directions

/-- The rules of all states in the order of their numbers. -/
def Summary.orderedRules (summary : Summary) : List RuleLine :=
  summary.listedRules.mergeSort fun a b => decide (a.id ≤ b.id)

/-- The parts of a summary as declarations: first all but the rules, then the rules by their numbers. The
    current state is no part of a table. -/
def Summary.declarations (summary : Summary) : List Declaration :=
  [ .name summary.name,
    .states summary.states,
    .inputAlphabet summary.inputAlphabet,
    .tapeAlphabet summary.tapeAlphabet,
    .blank summary.blank,
    .tapes summary.tapeCount,
    .initial summary.initial,
    .accepting summary.accepting ] ++
  (summary.orderedRules.map RuleLine.declaration).map .rule

namespace Declarations

variable {declarations : Declarations} (current : String)

/-- By their numbers, the rules that are told are those declared, in their order. -/
theorem orderedRules_ofProgram (consistent : declarations.Consistent) :
    (Summary.ofProgram declarations.program current).orderedRules =
      declarations.transitions.map (RuleLine.ofTransition declarations.program) := by
  have perm := Summary.listedRules_perm current declarations.program
  -- A number names at most one rule, so the order of the states leaves no trace.
  have distinct : ∀ a ∈ (Summary.ofProgram declarations.program current).listedRules,
      ∀ b ∈ (Summary.ofProgram declarations.program current).listedRules, a.id = b.id → a = b := by
    intro a aMem b bMem same
    obtain ⟨first, firstMem, rfl⟩ := List.mem_map.1 (perm.mem_iff.1 aMem)
    obtain ⟨second, secondMem, rfl⟩ := List.mem_map.1 (perm.mem_iff.1 bMem)
    exact congrArg _ (transition_eq_of_id_eq consistent firstMem secondMem same)
  rw [← orderedRules_program consistent, Description.orderedRules, Summary.orderedRules,
    mergeSort_eq_of_perm RuleLine.id perm distinct, List.map_mergeSort]
  intro _ _ _ _
  rfl

/-- What a summary declares is what was declared, with states and accepting states listed in the order of
    their names. -/
theorem ofList_declarations_ofProgram (consistent : declarations.Consistent) :
    ofList (Summary.ofProgram declarations.program current).declarations =
      (declarations.withStates (Summary.ofProgram declarations.program current).states).listedAs
        declarations.name (Summary.ofProgram declarations.program current).accepting := by
  have rules : (Summary.ofProgram declarations.program current).orderedRules.map
      RuleLine.declaration = declarations.rules := by
    rw [orderedRules_ofProgram current consistent, List.map_map]
    exact map_ruleDeclaration_transitionsFrom consistent consistent.rules_admitted 1
  have initial : some (Summary.ofProgram declarations.program current).initial =
      declarations.initial := consistent.tabulates.initial_eq.symm
  have input : Alphabet.ofList (Summary.ofProgram declarations.program current).inputAlphabet =
      declarations.inputAlphabet := Alphabet.ofList_toList _
  have tape : Alphabet.ofList (Summary.ofProgram declarations.program current).tapeAlphabet =
      declarations.tapeAlphabet := Alphabet.ofList_toList _
  rw [Summary.declarations, ofList, List.foldl_append, foldl_add_rules, rules]
  unfold listedAs withStates
  rw [← initial, ← input, ← tape]
  rfl

/-- The parts of a summary build a table of which the same is told. -/
theorem build_declarations_ofProgram (consistent : declarations.Consistent) :
    ∃ rebuilt,
      (ofList (Summary.ofProgram declarations.program current).declarations).build = .ok rebuilt ∧
        Summary.ofProgram rebuilt current = Summary.ofProgram declarations.program current := by
  have reordered : (Summary.ofProgram declarations.program current).states.Perm
      declarations.states :=
    consistent.tabulates.states_eq ▸
      (Summary.lists_ofProgram current consistent).states_perm
  have accepts : ∀ name, name ∈ (Summary.ofProgram declarations.program current).accepting ↔
      name ∈ (declarations.withStates
        (Summary.ofProgram declarations.program current).states).accepting := fun name =>
    (Summary.accepting_ofProgram_perm current declarations.program).mem_iff.trans
      (consistent.tabulates.accepting_iff name)
  have others := consistent_withStates reordered consistent
  rw [ofList_declarations_ofProgram current consistent]
  refine ⟨_, build_eq_ok_iff.2 ⟨others.listedAs accepts declarations.name, rfl⟩, ?_⟩
  rw [program_listedAs accepts declarations.name]
  exact summary_withStates reordered consistent current

end Declarations

/-! ### Tables of which the same is told -/

/-- What is known of a state of a table without its place: its name, its marks and its rules. -/
structure StateProfile where
  name : String
  initial : Bool
  accepting : Bool
  rules : List RuleLine
deriving DecidableEq

/-- What is known of a state without its place, with the names of the states that its rules lead to. -/
def Program.profile (program : Program) (state : State) : StateProfile where
  name := state.name
  initial := state.initial
  accepting := state.accepting
  rules := state.transitions.map (RuleLine.ofTransition program)

/-- Two tables differ at most in the places of their states: they agree in all other parts, and have
    the same states with the same marks and the same rules by name and number. -/
structure Program.SameButOrder (first second : Program) : Prop where
  name_eq : first.name = second.name
  inputAlphabet_eq : first.inputAlphabet = second.inputAlphabet
  tapeAlphabet_eq : first.tapeAlphabet = second.tapeAlphabet
  blank_eq : first.blank = second.blank
  tapeCount_eq : first.tapeCount = second.tapeCount
  initial_eq : (first.stateAt first.initial).name = (second.stateAt second.initial).name
  profiles_perm : (first.states.map first.profile).Perm (second.states.map second.profile)

namespace Summary

/-- The states that a summary tells of, with all that it tells of them. -/
def profiles (summary : Summary) : List StateProfile :=
  summary.rules.map fun entry =>
    { name := entry.state
      initial := entry.state == summary.initial
      accepting := summary.accepting.contains entry.state
      rules := entry.rules }

variable {declarations others : Declarations}

/-- The initial state is known by its name. -/
theorem name_beq_initial (consistent : declarations.Consistent) {state : State}
    (mem : state ∈ declarations.program.states) :
    (state.name == (declarations.program.stateAt declarations.program.initial).name) =
      state.initial := by
  have tabulates := consistent.tabulates
  obtain ⟨place, bound, rfl⟩ := List.mem_iff_getElem.1 mem
  rw [← Program.stateAt_eq_getElem bound, Bool.eq_iff_iff, beq_iff_eq,
    tabulates.initial_iff place bound]
  constructor
  · intro same
    have found := tabulates.state_found place bound
    rw [same, tabulates.state_found _ tabulates.initial_lt] at found
    exact (Option.some.inj found).symm
  · rintro rfl
    rfl

/-- An accepting state is known by its name. -/
theorem contains_accepting (consistent : declarations.Consistent) (current : String) {state : State}
    (mem : state ∈ declarations.program.states) :
    (ofProgram declarations.program current).accepting.contains state.name = state.accepting := by
  rw [Bool.eq_iff_iff, List.contains_iff_mem,
    (accepting_ofProgram_perm current declarations.program).mem_iff, List.mem_map]
  constructor
  · rintro ⟨other, otherMem, same⟩
    obtain ⟨listed, accepting⟩ := List.mem_filter.1 otherMem
    exact Declarations.state_eq_of_name_eq consistent listed mem same ▸ accepting
  · intro accepting
    exact ⟨state, List.mem_filter.2 ⟨mem, accepting⟩, rfl⟩

/-- A summary tells all of each state. -/
theorem profiles_ofProgram (consistent : declarations.Consistent) (current : String) :
    (ofProgram declarations.program current).profiles =
      (sortStates declarations.program.states).map declarations.program.profile := by
  unfold profiles
  rw [ofProgram, List.map_map]
  apply List.map_congr_left
  intro state mem
  have stateMem := List.mem_mergeSort.1 mem
  have initial := name_beq_initial consistent stateMem
  have accepting := contains_accepting consistent current stateMem
  rw [Program.profile, ← initial, ← accepting]
  rfl

/-- Besides the parts of a table, a summary tells what is known of its states. -/
theorem ofProgram_eq_of_profiles {first second : Program} {current : String}
    (parts : first.SameButOrder second)
    (same : (sortStates first.states).map first.profile =
      (sortStates second.states).map second.profile) :
    ofProgram first current = ofProgram second current := by
  have states := congrArg (List.map StateProfile.name) same
  have accepting := congrArg
    (fun profiles => (profiles.filter StateProfile.accepting).map StateProfile.name) same
  have rules := congrArg
    (List.map fun profile => StateRules.mk profile.name profile.rules) same
  simp only [List.map_map, List.filter_map] at states accepting rules
  simp only [ofProgram, parts.name_eq, parts.inputAlphabet_eq, parts.tapeAlphabet_eq, parts.blank_eq,
    parts.tapeCount_eq, parts.initial_eq, Summary.mk.injEq, true_and]
  exact ⟨states, accepting, rules⟩

/-- What is known of the states in the order of their names. -/
theorem map_profile_sortStates (program : Program) :
    (sortStates program.states).map program.profile =
      (program.states.map program.profile).mergeSort fun a b => decide (a.name ≤ b.name) :=
  List.map_mergeSort fun _ _ _ _ => rfl

/-- The same is told of tables that differ at most in the places of their states. -/
theorem ofProgram_eq_of_sameButOrder (consistent : declarations.Consistent) {other : Program}
    (same : declarations.program.SameButOrder other) (current : String) :
    ofProgram declarations.program current = ofProgram other current := by
  apply ofProgram_eq_of_profiles same
  rw [map_profile_sortStates, map_profile_sortStates]
  refine mergeSort_eq_of_perm StateProfile.name same.profiles_perm ?_
  intro a aMem b bMem names
  obtain ⟨first, firstMem, rfl⟩ := List.mem_map.1 aMem
  obtain ⟨second, secondMem, rfl⟩ := List.mem_map.1 bMem
  exact congrArg _ (Declarations.state_eq_of_name_eq consistent firstMem secondMem names)

/-- Tables of which the same is told differ at most in the places of their states. -/
theorem sameButOrder_of_ofProgram_eq (consistent : declarations.Consistent)
    (otherConsistent : others.Consistent) {current otherCurrent : String}
    (told : ofProgram declarations.program current = ofProgram others.program otherCurrent) :
    declarations.program.SameButOrder others.program := by
  have input := congrArg (fun summary => Alphabet.ofList summary.inputAlphabet) told
  have tape := congrArg (fun summary => Alphabet.ofList summary.tapeAlphabet) told
  simp only [ofProgram, Alphabet.ofList_toList] at input tape
  have profiles := congrArg Summary.profiles told
  rw [profiles_ofProgram consistent, profiles_ofProgram otherConsistent] at profiles
  have sorted : ∀ program : Program,
      ((sortStates program.states).map program.profile).Perm (program.states.map program.profile) :=
    fun program => (List.mergeSort_perm program.states _).map program.profile
  exact
    { name_eq := congrArg Summary.name told
      inputAlphabet_eq := input
      tapeAlphabet_eq := tape
      blank_eq := congrArg Summary.blank told
      tapeCount_eq := congrArg Summary.tapeCount told
      initial_eq := congrArg Summary.initial told
      profiles_perm := (sorted _).symm.trans (profiles ▸ sorted _) }

/-! ### What a summary loses -/

/-- A summary loses nothing of a table but the order of its states. It lists every state and every rule
    once. Its parts, declared in any way with the rules by their numbers, build a table of which the same
    is told. And the same is told of two built tables exactly if they differ at most in the places of
    their states. -/
theorem loses_only_state_order {declarations : Declarations} {program : Program}
    (built : declarations.build = .ok program) (current : String) :
    (ofProgram program current).Lists program ∧
    (∀ row, Declarations.DeclaredAlike (ofProgram program current).declarations row →
      ∃ rebuilt, (Declarations.ofList row).build = .ok rebuilt ∧
        ofProgram rebuilt current = ofProgram program current) ∧
    ∀ (others : Declarations) (other : Program), others.build = .ok other → ∀ otherCurrent,
      (ofProgram program current = ofProgram other otherCurrent ↔
        current = otherCurrent ∧ program.SameButOrder other) := by
  obtain ⟨consistent, rfl⟩ := Declarations.build_eq_ok_iff.1 built
  refine ⟨lists_ofProgram current consistent, ?_, ?_⟩
  · intro row alike
    rw [← Declarations.build_eq_of_declaredAlike alike]
    exact Declarations.build_declarations_ofProgram current consistent
  · intro others other otherBuilt otherCurrent
    obtain ⟨otherConsistent, rfl⟩ := Declarations.build_eq_ok_iff.1 otherBuilt
    constructor
    · intro told
      exact ⟨congrArg Summary.current told,
        sameButOrder_of_ofProgram_eq consistent otherConsistent told⟩
    · rintro ⟨rfl, same⟩
      exact ofProgram_eq_of_sameButOrder consistent same current

end Summary

/-- The table of the two states that take turns, with its states in the order of their names. -/
def Declarations.turnsTableByName : Program :=
  { turnsTable with
    states :=
      [ ⟨"stop", false, true, []⟩,
        ⟨"tick", true, false,
          [⟨2, 1, 2, ['.'], ['0'], [.right]⟩, ⟨4, 1, 1, ['_'], ['_'], [.right]⟩]⟩,
        ⟨"tock", false, false,
          [⟨1, 2, 1, ['0'], ['1'], [.left]⟩, ⟨3, 2, 0, ['1'], ['_'], [.stay]⟩]⟩ ]
    initial := 1 }

/-- What is told of the two states that take turns builds another table, with the states at other places,
    and the same is told of it. -/
theorem Summary.round_trip_of_turns :
    (Declarations.ofList Declarations.turns).build = .ok Declarations.turnsTable ∧
      (ofProgram Declarations.turnsTable "tock").Lists Declarations.turnsTable ∧
      Declarations.DeclaredAlike (ofProgram Declarations.turnsTable "tock").declarations
        (ofProgram Declarations.turnsTable "tock").declarations ∧
      (Declarations.ofList (ofProgram Declarations.turnsTable "tock").declarations).build =
        .ok Declarations.turnsTableByName ∧
      Declarations.turnsTableByName ≠ Declarations.turnsTable ∧
      ofProgram Declarations.turnsTableByName "tock" = ofProgram Declarations.turnsTable "tock" ∧
      Declarations.turnsTable.SameButOrder Declarations.turnsTableByName := by
  have built : (Declarations.ofList Declarations.turns).build = .ok Declarations.turnsTable := rfl
  have rebuilt : (Declarations.ofList (ofProgram Declarations.turnsTable "tock").declarations).build =
      .ok Declarations.turnsTableByName := by cbv
  have alike := Declarations.DeclaredAlike.refl (ofProgram Declarations.turnsTable "tock").declarations
  obtain ⟨lists, builds, differs⟩ := loses_only_state_order built "tock"
  obtain ⟨table, again, told⟩ := builds _ alike
  have same : table = Declarations.turnsTableByName :=
    Except.ok.inj (again.symm.trans rebuilt)
  subst same
  have placed := ((differs _ _ rebuilt "tock").1 told.symm).2
  exact ⟨built, lists, alike, rebuilt, by decide, told, placed⟩

end Multitape
