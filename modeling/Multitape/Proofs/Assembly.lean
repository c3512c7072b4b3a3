/-
Module: Multitape.Proofs.Assembly
Purpose: The table that consistent declarations make: which state stands at which place, which rules
  it has, and that every rule fits the table. `Program.WellFormed` is all that a machine needs to
  know of its program.
Main exports: pairwise_mergeSort_le, mergeSort_eq_of_perm, Program.Fits, Program.WellFormed,
  stateAt_place, transitions_stateAt, orderedRules_program, wellFormed_of_build, Declarations.marker
-/
import Mathlib.Data.List.Sort
import Multitape.Description.Printer
import Multitape.Proofs.Consistency

namespace Multitape

/-! ### Sorting -/

/-- What is sorted by a key ascends by it. -/
theorem pairwise_mergeSort_le {α κ : Type} [LinearOrder κ] (key : α → κ) (items : List α) :
    (items.mergeSort fun a b => decide (key a ≤ key b)).Pairwise fun a b => key a ≤ key b := by
  refine List.Pairwise.imp (fun lower => of_decide_eq_true lower)
    (List.pairwise_mergeSort ?_ ?_ items)
  · intro a b c first second
    simp only [decide_eq_true_eq] at first second ⊢
    exact le_trans first second
  · intro a b
    simp only [Bool.or_eq_true, decide_eq_true_eq]
    exact le_total (key a) (key b)

/-- What is sorted by a key comes out the same in whatever order it comes in, if different items have
    different keys. -/
theorem mergeSort_eq_of_perm {α κ : Type} [LinearOrder κ] (key : α → κ) {items others : List α}
    (perm : items.Perm others)
    (distinct : ∀ a ∈ items, ∀ b ∈ items, key a = key b → a = b) :
    (items.mergeSort fun a b => decide (key a ≤ key b)) =
      others.mergeSort fun a b => decide (key a ≤ key b) := by
  have sorted := (List.mergeSort_perm items fun a b => decide (key a ≤ key b)).trans
    (perm.trans (List.mergeSort_perm others fun a b => decide (key a ≤ key b)).symm)
  refine List.Perm.eq_of_pairwise ?_ (pairwise_mergeSort_le key items)
    (pairwise_mergeSort_le key others) sorted
  intro a b aMem bMem lower upper
  have bListed : b ∈ items := perm.mem_iff.2 (List.mem_mergeSort.1 bMem)
  exact distinct a (List.mem_mergeSort.1 aMem) b bListed (le_antisymm lower upper)

/-! ### Tables that a machine can work with -/

/-- A rule fits a table: its target is a state, and it has a tape symbol or the wildcard to read, a
    tape symbol to write and a direction for each tape. -/
structure Program.Fits (program : Program) (transition : Transition) : Prop where
  target_lt : transition.target < program.states.length
  read_length : transition.read.length = program.tapeCount
  write_length : transition.write.length = program.tapeCount
  directions_length : transition.directions.length = program.tapeCount
  read_mem : ∀ symbol ∈ transition.read, symbol = wildcard ∨ symbol ∈ program.tapeAlphabet
  write_mem : ∀ symbol ∈ transition.write, symbol ∈ program.tapeAlphabet

/-- A table whose parts fit together. Nothing is said of declarations. -/
structure Program.WellFormed (program : Program) : Prop where
  tapes_pos : 0 < program.tapeCount
  initial_lt : program.initial < program.states.length
  initial_not_accepting : (program.stateAt program.initial).accepting = false
  wildcard_not_mem : wildcard ∉ program.tapeAlphabet
  blank_mem : program.blank ∈ program.tapeAlphabet
  rules_fit : ∀ state ∈ program.states, ∀ transition ∈ state.transitions, program.Fits transition
  accepting_rules : ∀ state ∈ program.states, state.accepting = true → state.transitions = []
  source_eq : ∀ place, ∀ transition ∈ (program.stateAt place).transitions, transition.source = place

/-- The rules of the state at any place fit. Beyond the last state there are none. -/
theorem Program.WellFormed.fits {program : Program} (wellFormed : program.WellFormed) {place : Nat}
    {transition : Transition} (mem : transition ∈ (program.stateAt place).transitions) :
    program.Fits transition := by
  unfold Program.stateAt at mem
  cases found : program.states[place]? with
  | none => simp [found, State.named] at mem
  | some state =>
      rw [found] at mem
      exact wellFormed.rules_fit state (List.mem_of_getElem? found) transition mem

theorem Program.stateAt_eq_getElem {program : Program} {place : Nat}
    (bound : place < program.states.length) : program.stateAt place = program.states[place] := by
  rw [Program.stateAt, List.getElem?_eq_getElem bound]
  rfl

theorem Program.stateAt_mem {program : Program} {place : Nat}
    (bound : place < program.states.length) :
    program.stateAt place ∈ program.states := by
  rw [Program.stateAt_eq_getElem bound]
  exact List.getElem_mem bound

/-- Every rule of the table belongs to the state where it starts. -/
theorem Program.WellFormed.stateAt_source {program : Program} (wellFormed : program.WellFormed)
    {transition : Transition} (mem : transition ∈ program.transitions) :
    program.stateAt transition.source ∈ program.states ∧
      transition ∈ (program.stateAt transition.source).transitions := by
  obtain ⟨state, stateMem, mem⟩ := List.mem_flatMap.1 mem
  obtain ⟨place, bound, rfl⟩ := List.mem_iff_getElem.1 stateMem
  rw [← Program.stateAt_eq_getElem bound] at mem
  rw [wellFormed.source_eq place transition mem]
  exact ⟨Program.stateAt_mem bound, mem⟩

namespace Declarations

variable {declarations : Declarations}

/-! ### States by their places -/

/-- The state that a declared name becomes. -/
def stateOf (declarations : Declarations) (name : String) : State :=
  declarations.assembleState declarations.initialPlace declarations.transitions name
    (declarations.place name)

@[simp] theorem length_program_states :
    declarations.program.states.length = declarations.states.length := by
  simp [program, assemble]

/-- States keep the places of their names. -/
theorem program_states (nodup : declarations.states.Nodup) :
    declarations.program.states = declarations.states.map declarations.stateOf := by
  refine List.ext_getElem (by simp) fun index lower _ => ?_
  have bound : index < declarations.states.length := by simpa using lower
  simp [program, assemble, stateOf, place, nodup.idxOf_getElem index bound]

theorem map_name_program_states (nodup : declarations.states.Nodup) :
    declarations.program.states.map State.name = declarations.states := by
  rw [program_states nodup, List.map_map]
  exact List.map_id _

theorem stateAt_place (nodup : declarations.states.Nodup) {name : String}
    (mem : name ∈ declarations.states) :
    declarations.program.stateAt (declarations.place name) = declarations.stateOf name := by
  have bound : declarations.place name < declarations.states.length := place_lt mem
  have found : declarations.states[declarations.place name] = name := List.getElem_idxOf bound
  simp [Program.stateAt, program_states nodup, List.getElem?_eq_getElem bound, found]

theorem program_initial {name : String} (named : declarations.initial = some name) :
    declarations.program.initial = declarations.place name := by
  simp [program, assemble, initialPlace, named]

/-! ### Rules by their numbers -/

/-- Every rule of the table stands for a declaration. -/
theorem exists_rule_of_mem {rules : List RuleDeclaration} {id : Nat} {transition : Transition}
    (mem : transition ∈ declarations.transitionsFrom id rules) :
    ∃ rule ∈ rules, ∃ number, transition = declarations.transition number rule := by
  induction rules generalizing id with
  | nil => simp [transitionsFrom] at mem
  | cons rule rules ih =>
      rcases List.mem_cons.1 mem with rfl | mem
      · exact ⟨rule, List.mem_cons_self, id, rfl⟩
      · obtain ⟨other, otherMem, number, same⟩ := ih mem
        exact ⟨other, List.mem_cons_of_mem _ otherMem, number, same⟩

theorem le_id_of_mem {rules : List RuleDeclaration} {id : Nat} {transition : Transition}
    (mem : transition ∈ declarations.transitionsFrom id rules) : id ≤ transition.id := by
  induction rules generalizing id with
  | nil => simp [transitionsFrom] at mem
  | cons rule rules ih =>
      rcases List.mem_cons.1 mem with rfl | mem
      · exact Nat.le_refl id
      · exact Nat.le_of_succ_le (ih mem)

/-- Numbers grow along the declarations. -/
theorem transitionsFrom_pairwise (id : Nat) (rules : List RuleDeclaration) :
    (declarations.transitionsFrom id rules).Pairwise fun a b => a.id < b.id := by
  induction rules generalizing id with
  | nil => exact List.Pairwise.nil
  | cons rule rules ih =>
      exact List.pairwise_cons.2 ⟨fun _ mem => le_id_of_mem mem, ih (id + 1)⟩

/-- A number names at most one rule. -/
theorem eq_of_id_eq {rules : List RuleDeclaration} {id : Nat} {first second : Transition}
    (firstMem : first ∈ declarations.transitionsFrom id rules)
    (secondMem : second ∈ declarations.transitionsFrom id rules) (same : first.id = second.id) :
    first = second := by
  induction rules generalizing id with
  | nil => simp [transitionsFrom] at firstMem
  | cons rule rules ih =>
      rcases List.mem_cons.1 firstMem with rfl | firstMem
      · rcases List.mem_cons.1 secondMem with rfl | secondMem
        · rfl
        · have later : id + 1 ≤ second.id := le_id_of_mem secondMem
          have here : id = second.id := same
          omega
      · rcases List.mem_cons.1 secondMem with rfl | secondMem
        · have later : id + 1 ≤ first.id := le_id_of_mem firstMem
          have here : first.id = id := same
          omega
        · exact ih firstMem secondMem

theorem transitionsFrom_nodup (id : Nat) (rules : List RuleDeclaration) :
    (declarations.transitionsFrom id rules).Nodup :=
  (transitionsFrom_pairwise id rules).imp fun lower same => by
    subst same
    exact Nat.lt_irrefl _ lower

/-- Every declaration of a row stands for a rule. -/
theorem exists_transition_of_mem {rules : List RuleDeclaration} {rule : RuleDeclaration} (id : Nat)
    (mem : rule ∈ rules) :
    ∃ number, declarations.transition number rule ∈ declarations.transitionsFrom id rules := by
  induction rules generalizing id with
  | nil => cases mem
  | cons first rules ih =>
      rcases List.mem_cons.1 mem with same | mem
      · subst same
        exact ⟨id, List.mem_cons_self⟩
      · obtain ⟨number, member⟩ := ih (id + 1) mem
        exact ⟨number, List.mem_cons_of_mem _ member⟩

/-- The state at any place has the rules that start there, in the order of their declaration. -/
theorem transitions_stateAt (consistent : declarations.Consistent) (place : Nat) :
    (declarations.program.stateAt place).transitions =
      declarations.transitions.filter (·.source == place) := by
  cases named : declarations.states[place]? with
  | some name =>
      simp [Program.stateAt, program, assemble, named, assembleState]
  | none =>
      -- Beyond the last state there are no rules, and none starts there.
      have beyond : declarations.states.length ≤ place := List.getElem?_eq_none_iff.1 named
      have none : declarations.transitions.filter (·.source == place) = [] := by
        apply List.filter_eq_nil_iff.2
        intro transition mem starts
        obtain ⟨rule, ruleMem, number, rfl⟩ := exists_rule_of_mem mem
        have bound := place_lt (consistent.rules_admitted rule ruleMem).source_mem
        have here : declarations.place rule.source = place := eq_of_beq starts
        omega
      rw [none]
      simp [Program.stateAt, program, assemble, named, State.named]

/-- Parting the rules by the states where they start loses none and doubles none. -/
theorem program_transitions_perm (consistent : declarations.Consistent) :
    declarations.program.transitions.Perm declarations.transitions := by
  have parted : declarations.program.transitions = declarations.states.flatMap fun name =>
      declarations.transitions.filter (·.source == declarations.place name) := by
    simp [Program.transitions, program_states consistent.states_nodup, List.flatMap_map, stateOf,
      assembleState]
  have nodup : declarations.transitions.Nodup := transitionsFrom_nodup 1 declarations.rules
  rw [parted]
  refine (List.perm_ext_iff_of_nodup (List.nodup_flatMap.2 ⟨fun name _ => nodup.filter _, ?_⟩)
    nodup).2 fun transition => ?_
  · refine consistent.states_nodup.pairwise_of_forall_ne fun name mem other _ different => ?_
    refine List.disjoint_left.2 fun transition here there => different ?_
    have atName : transition.source = declarations.place name := by
      simpa using (List.mem_filter.1 here).2
    have atOther : transition.source = declarations.place other := by
      simpa using (List.mem_filter.1 there).2
    exact (place_inj mem).1 (atName.symm.trans atOther)
  · simp only [List.mem_flatMap, List.mem_filter, beq_iff_eq]
    constructor
    · intro given
      rcases given with ⟨-, -, mem, -⟩
      exact mem
    · intro mem
      obtain ⟨rule, ruleMem, number, rfl⟩ := exists_rule_of_mem mem
      exact ⟨rule.source, (consistent.rules_admitted rule ruleMem).source_mem, mem, rfl⟩

/-- A number names at most one rule of a table. -/
theorem transition_eq_of_id_eq (consistent : declarations.Consistent) {first second : Transition}
    (firstMem : first ∈ declarations.program.transitions)
    (secondMem : second ∈ declarations.program.transitions) (same : first.id = second.id) :
    first = second := by
  have declared := (program_transitions_perm consistent).subset
  exact eq_of_id_eq (declared firstMem) (declared secondMem) same

/-- Listed by their numbers, the rules of the table are those declared, in their order. -/
theorem orderedRules_program (consistent : declarations.Consistent) :
    Description.orderedRules declarations.program = declarations.transitions := by
  have numbered : declarations.transitions.Pairwise fun a b => decide (a.id ≤ b.id) = true :=
    (transitionsFrom_pairwise 1 declarations.rules).imp fun lower =>
      decide_eq_true (Nat.le_of_lt lower)
  rw [Description.orderedRules,
    mergeSort_eq_of_perm Transition.id (program_transitions_perm consistent)
      fun _ firstMem _ secondMem => transition_eq_of_id_eq consistent firstMem secondMem]
  exact List.mergeSort_of_pairwise numbered

/-! ### Built programs are well-formed -/

theorem stateOf_accepting_iff {name : String} :
    (declarations.stateOf name).accepting = true ↔ name ∈ declarations.accepting := by
  simp [stateOf, assembleState]

theorem Admits.fits {rule : RuleDeclaration} (admits : declarations.Admits rule) (id : Nat) :
    declarations.program.Fits (declarations.transition id rule) where
  target_lt := by
    rw [length_program_states]
    exact place_lt admits.target_mem
  read_length := admits.read_length
  write_length := admits.write_length
  directions_length := admits.directions_length
  read_mem := admits.read_mem
  write_mem := admits.write_mem

/-- Consistent declarations make a well-formed table. -/
theorem Consistent.wellFormed (consistent : declarations.Consistent) :
    declarations.program.WellFormed := by
  obtain ⟨initial, initialMem, named⟩ := consistent.initial_mem
  have initialPlace_eq := program_initial named
  refine ⟨consistent.tapes_pos, ?_, ?_, consistent.wildcard_not_mem, consistent.blank_mem,
    ?_, ?_, ?_⟩
  · rw [initialPlace_eq, length_program_states]
    exact place_lt initialMem
  · rw [initialPlace_eq, stateAt_place consistent.states_nodup initialMem, ← Bool.not_eq_true,
      stateOf_accepting_iff]
    exact fun mem => (consistent.accepting_mem initial mem).2 named
  · intro state stateMem transition mem
    rw [program_states consistent.states_nodup] at stateMem
    obtain ⟨name, -, rfl⟩ := List.mem_map.1 stateMem
    obtain ⟨rule, ruleMem, number, rfl⟩ := exists_rule_of_mem (List.mem_filter.1 mem).1
    exact (consistent.rules_admitted rule ruleMem).fits number
  · intro state stateMem accepting
    rw [program_states consistent.states_nodup] at stateMem
    obtain ⟨name, nameMem, rfl⟩ := List.mem_map.1 stateMem
    refine List.filter_eq_nil_iff.2 fun transition mem starts => ?_
    obtain ⟨rule, ruleMem, number, rfl⟩ := exists_rule_of_mem mem
    have admits := consistent.rules_admitted rule ruleMem
    have same : rule.source = name := (place_inj admits.source_mem).1 (eq_of_beq starts)
    exact admits.source_not_accepting (same ▸ stateOf_accepting_iff.1 accepting)
  · intro place transition mem
    cases named : declarations.states[place]? with
    | none => simp [Program.stateAt, program, assemble, named, State.named] at mem
    | some name =>
        have member : transition ∈ declarations.transitions ∧ transition.source = place := by
          simpa [Program.stateAt, program, assemble, named, assembleState] using mem
        exact member.2

end Declarations

/-- Every program that was built is well-formed. -/
theorem wellFormed_of_build {declarations : Declarations} {program : Program}
    (built : declarations.build = .ok program) : program.WellFormed := by
  obtain ⟨consistent, rfl⟩ := Declarations.build_eq_ok_iff.1 built
  exact consistent.wellFormed

/-! ### A machine with two tapes

It goes over zeros and marks each on its second tape, and accepts when the head that looks for marks
has come back over all of them.  Both heads leave what is stored, at different ends.
-/

/-- The declarations of the machine that marks zeros. -/
def Declarations.marker : Declarations where
  states := ["scan", "back", "done"]
  inputAlphabet := Alphabet.ofList ['0', '1']
  tapeAlphabet := Alphabet.ofList ['0', '1', '_']
  tapeCount := 2
  initial := some "scan"
  accepting := ["done"]
  rules :=
    [ ⟨"scan", ['0', '.'], "scan", ['0', '1'], [.right, .right]⟩,
      ⟨"scan", ['.', '_'], "back", ['_', '_'], [.stay, .left]⟩,
      ⟨"back", ['.', '1'], "back", ['_', '1'], [.left, .left]⟩,
      ⟨"back", ['.', '_'], "done", ['_', '_'], [.stay, .stay]⟩ ]

theorem Declarations.marker_build : marker.build = .ok marker.program := rfl

end Multitape
