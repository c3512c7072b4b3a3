/-
Module: Multitape.Proofs.Redeclaration
Purpose: What a table declares. A table that was built is built again from what it declares, up to
  its name: states keep their places and rules keep their numbers. It does not matter in what order and
  how often accepting states are listed.
Main exports: Program.ruleDeclaration, Program.declarations, Declarations.relisted,
  declarations_program, Declarations.listedAs, program_listedAs, build_declarations
-/
import Multitape.Proofs.Assembly

namespace Multitape

/-- The declaration of a rule of a table. -/
def Program.ruleDeclaration (program : Program) (transition : Transition) : RuleDeclaration where
  source := (program.stateAt transition.source).name
  read := transition.read
  target := (program.stateAt transition.target).name
  write := transition.write
  directions := transition.directions

/-- What a table declares, except for its name. -/
def Program.declarations (program : Program) : Declarations where
  states := program.states.map State.name
  inputAlphabet := program.inputAlphabet
  tapeAlphabet := program.tapeAlphabet
  blank := program.blank
  tapeCount := program.tapeCount
  initial := some (program.stateAt program.initial).name
  accepting := program.acceptingStates.map State.name
  rules := (Description.orderedRules program).map program.ruleDeclaration

namespace Declarations

variable {declarations : Declarations}

/-- The same declarations without a name, and with every accepting state listed once, in the order
    of the states. -/
def relisted (declarations : Declarations) : Declarations :=
  { declarations with
    name := "untitled"
    accepting := declarations.states.filter (declarations.accepting.contains ·) }

theorem mem_relisted_accepting {name : String} :
    name ∈ declarations.relisted.accepting ↔
      name ∈ declarations.states ∧ name ∈ declarations.accepting := by
  simp [relisted]

/-! ### What a built table declares -/

theorem ruleDeclaration_transition (consistent : declarations.Consistent) {rule : RuleDeclaration}
    (admits : declarations.Admits rule) (id : Nat) :
    declarations.program.ruleDeclaration (declarations.transition id rule) = rule := by
  unfold Program.ruleDeclaration transition
  rw [stateAt_place consistent.states_nodup admits.source_mem,
    stateAt_place consistent.states_nodup admits.target_mem]
  rfl

theorem map_ruleDeclaration_transitionsFrom (consistent : declarations.Consistent)
    {rules : List RuleDeclaration} (admitted : ∀ rule ∈ rules, declarations.Admits rule)
    (id : Nat) :
    (declarations.transitionsFrom id rules).map declarations.program.ruleDeclaration = rules := by
  induction rules generalizing id with
  | nil => rfl
  | cons rule rules ih =>
      have first := admitted rule List.mem_cons_self
      have others := ih (fun other mem => admitted other (List.mem_cons_of_mem rule mem)) (id + 1)
      rw [transitionsFrom, List.map_cons, ruleDeclaration_transition consistent first, others]

/-- A built table declares what it was built from. -/
theorem declarations_program (consistent : declarations.Consistent) :
    declarations.program.declarations = declarations.relisted := by
  obtain ⟨initial, initialMem, named⟩ := consistent.initial_mem
  have start : (declarations.program.stateAt declarations.program.initial).name = initial := by
    rw [program_initial named, stateAt_place consistent.states_nodup initialMem]
    rfl
  have accepting : declarations.program.acceptingStates.map State.name =
      declarations.states.filter (declarations.accepting.contains ·) := by
    rw [Program.acceptingStates, program_states consistent.states_nodup, List.filter_map,
      List.map_map]
    exact List.map_id _
  have rules :
      (Description.orderedRules declarations.program).map declarations.program.ruleDeclaration =
      declarations.rules := by
    rw [orderedRules_program consistent]
    exact map_ruleDeclaration_transitionsFrom consistent consistent.rules_admitted 1
  unfold Program.declarations relisted
  rw [map_name_program_states consistent.states_nodup, start, accepting, rules, ← named]
  rfl

/-! ### Accepting states listed otherwise -/

/-- The same declarations under a name, with the accepting states in a list of their own. -/
def listedAs (declarations : Declarations) (name : String) (accepting : List String) :
    Declarations :=
  { declarations with name := name, accepting := accepting }

section Listed

variable {accepting : List String}
  (same : ∀ other, other ∈ accepting ↔ other ∈ declarations.accepting) (name : String)

include same

theorem Consistent.listedAs (consistent : declarations.Consistent) :
    (declarations.listedAs name accepting).Consistent where
  tapes_pos := consistent.tapes_pos
  states_ne_nil := consistent.states_ne_nil
  states_nodup := consistent.states_nodup
  wildcard_not_mem := consistent.wildcard_not_mem
  blank_mem := consistent.blank_mem
  initial_mem := consistent.initial_mem
  accepting_mem := fun other mem => consistent.accepting_mem other ((same other).1 mem)
  rules_admitted := by
    intro rule mem
    have kept : ∀ other ∈ (declarations.listedAs name accepting).accepting,
        other ∈ declarations.accepting := fun other => (same other).1
    have states : (declarations.listedAs name accepting).states = declarations.states := rfl
    exact (consistent.rules_admitted rule mem).of_same states kept rfl rfl

/-- It does not matter how accepting states are listed. -/
theorem program_listedAs :
    (declarations.listedAs name accepting).program = declarations.program.withName name := by
  have accepts : (accepting.contains ·) = (declarations.accepting.contains ·) := by
    funext other
    rw [Bool.eq_iff_iff, List.contains_iff_mem, List.contains_iff_mem, same]
  have states : (declarations.listedAs name accepting).states = declarations.states := rfl
  have rules : (declarations.listedAs name accepting).transitions = declarations.transitions :=
    transitionsFrom_of_same states 1 declarations.rules
  have assembled : (declarations.listedAs name accepting).assembleState =
      declarations.assembleState := by
    funext initial transitions other place
    exact congrArg (fun flag => State.mk other (place == initial) flag
      (transitions.filter (·.source == place))) (congrFun accepts other)
  unfold program assemble
  rw [rules, assembled]
  rfl

end Listed

/-! ### Building it again -/

theorem mem_relisted_accepting_iff (consistent : declarations.Consistent) (name : String) :
    name ∈ declarations.relisted.accepting ↔ name ∈ declarations.accepting :=
  mem_relisted_accepting.trans
    (and_iff_right_of_imp fun mem => (consistent.accepting_mem name mem).1)

theorem Consistent.relisted (consistent : declarations.Consistent) :
    declarations.relisted.Consistent :=
  consistent.listedAs (mem_relisted_accepting_iff consistent) "untitled"

theorem program_relisted (consistent : declarations.Consistent) :
    declarations.relisted.program = declarations.program.withName "untitled" :=
  program_listedAs (mem_relisted_accepting_iff consistent) "untitled"

end Declarations

/-- A built table is built again from what it declares. -/
theorem build_declarations {declarations : Declarations} {program : Program}
    (built : declarations.build = .ok program) :
    program.declarations.build = .ok (program.withName "untitled") := by
  obtain ⟨consistent, rfl⟩ := Declarations.build_eq_ok_iff.1 built
  rw [Declarations.declarations_program consistent, Declarations.build_eq_ok_iff]
  exact ⟨consistent.relisted, (Declarations.program_relisted consistent).symm⟩

end Multitape
