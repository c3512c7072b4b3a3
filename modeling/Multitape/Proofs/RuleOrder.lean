/-
Module: Multitape.Proofs.RuleOrder
Purpose: Of the rules that apply, the one declared first is taken, although rules are stored with the
  states where they start and numbered over all of them. So a rule behind one that covers it is dead,
  and two rules that never apply together may change places.
Main exports: Program.FirstMatch, Machine.Executes, Declarations.firstMatch_of_ruleFor?,
  RuleDeclaration.Covers, RuleDeclaration.Excludes, Declarations.build_without_covered,
  Declarations.search_exchange_related, Declarations.build_exchanged, first_match_decides
-/
import Mathlib.Logic.Equiv.Basic
import Multitape.Proofs.AlikeTables

namespace Multitape

/-! ### The first match -/

/-- Of all rules of a table that start at a place and apply to the symbols, the one with the smallest
    number. -/
structure Program.FirstMatch (program : Program) (place : Nat) (symbols : List Char)
    (transition : Transition) : Prop where
  mem : transition ∈ program.transitions
  source_eq : transition.source = place
  applicable : transition.isApplicable symbols = true
  least : ∀ other ∈ program.transitions, other.source = place → other.isApplicable symbols = true →
    transition.id ≤ other.id

/-- The next step of a machine executes a rule. -/
structure Machine.Executes (machine : Machine) (transition : Transition) : Prop where
  tapes_eq : machine.step.1.tapes = transition.execute machine.readTapes.tapes
  current_eq : machine.step.1.current = transition.target
  lastTransition_eq : machine.step.1.lastTransition = some transition.id
  stepCount_eq : machine.step.1.stepCount = machine.stepCount + 1

/-- A state whose rules are in the order of their numbers takes the applicable rule with the smallest. -/
theorem State.id_le_of_ruleFor? {state : State} {symbols : List Char} {transition : Transition}
    (ordered : state.transitions.Pairwise fun earlier later => earlier.id < later.id)
    (found : state.ruleFor? symbols = some transition) :
    ∀ other ∈ state.transitions, other.isApplicable symbols = true → transition.id ≤ other.id := by
  obtain ⟨-, before, after, listed, refused⟩ := List.find?_eq_some_iff_append.1 found
  intro other mem applicable
  rw [listed] at ordered mem
  rcases List.mem_append.1 mem with early | late
  · have refuses := refused other early
    simp [applicable] at refuses
  · rcases List.mem_cons.1 late with rfl | late
    · exact Nat.le_refl other.id
    · have later := List.pairwise_cons.1 (List.pairwise_append.1 ordered).2.1
      exact Nat.le_of_lt (later.1 other late)

/-- The rule that a state takes is the first match among all rules of the table. -/
theorem Declarations.firstMatch_of_ruleFor? {declarations : Declarations}
    (consistent : declarations.Consistent) {place : Nat} {symbols : List Char}
    {transition : Transition}
    (found : (declarations.program.stateAt place).ruleFor? symbols = some transition) :
    declarations.program.FirstMatch place symbols transition := by
  have stored := transitions_stateAt consistent place
  have everywhere : ∀ other, other ∈ declarations.program.transitions ↔
      other ∈ declarations.transitions := fun other =>
    (program_transitions_perm consistent).mem_iff
  have ordered : (declarations.program.stateAt place).transitions.Pairwise
      fun earlier later => earlier.id < later.id := by
    rw [stored]
    exact (transitionsFrom_pairwise 1 declarations.rules).filter _
  have mem := List.mem_of_find?_eq_some found
  rw [stored] at mem
  obtain ⟨declared, here⟩ := List.mem_filter.1 mem
  constructor
  · exact (everywhere transition).2 declared
  · exact eq_of_beq here
  · exact (List.find?_eq_some_iff_append.1 found).1
  · intro other otherMem source applicable
    apply State.id_le_of_ruleFor? ordered found other _ applicable
    rw [stored]
    exact List.mem_filter.2 ⟨(everywhere other).1 otherMem, beq_iff_eq.2 source⟩

/-- A step that counts a rule executes the next rule. -/
theorem Machine.executes_of_counted {machine : Machine}
    (counted : machine.step.1.stepCount ≠ machine.stepCount) :
    ∃ transition, machine.nextRule? = some transition ∧ machine.Executes transition := by
  have outcome := machine.step_outcome
  generalize stepped : machine.step.1 = next at outcome counted
  generalize machine.step.2 = result at outcome
  cases outcome with
  | resting => exact absurd rfl counted
  | stuck => exact absurd rfl counted
  | accepting _ rule =>
      refine ⟨_, rule, ?_⟩
      constructor <;> rw [stepped] <;> rfl
  | advancing _ rule =>
      refine ⟨_, rule, ?_⟩
      constructor <;> rw [stepped] <;> rfl

/-! ### Rules behind rules -/

/-- A rule reads whatever the other one of the same state reads: on every tape it has the wildcard or the
    same entry. -/
def RuleDeclaration.Covers (general special : RuleDeclaration) : Prop :=
  general.source = special.source ∧
    ∀ tape : Nat, general.read[tape]? = some wildcard ∨ general.read[tape]? = special.read[tape]?

/-- Two rules read different symbols on some tape, neither of them the wildcard. -/
def RuleDeclaration.Excludes (first second : RuleDeclaration) : Prop :=
  ∃ (tape : Nat) (one other : Char), first.read[tape]? = some one ∧
    second.read[tape]? = some other ∧ one ≠ wildcard ∧ other ≠ wildcard ∧ one ≠ other

namespace Declarations

variable {declarations : Declarations} {place : Nat} {symbols : List Char}

/-- A rule applies wherever one applies that it covers. -/
theorem Applies.of_covers {general special : RuleDeclaration}
    (applies : declarations.Applies place symbols special) (covers : general.Covers special)
    (length : general.read.length = special.read.length) :
    declarations.Applies place symbols general := by
  obtain ⟨source, entries⟩ := covers
  obtain ⟨here, accepted⟩ := applies
  rw [Transition.accepts_iff_getElem?] at accepted
  refine ⟨source ▸ here, Transition.accepts_iff_getElem?.2 ⟨length.trans accepted.1, ?_⟩⟩
  intro tape entry listed
  rcases entries tape with wild | same
  · exact Or.inl (Option.some.inj (listed.symm.trans wild))
  · exact accepted.2 tape entry (same.symm.trans listed)

/-- Rules that exclude each other never apply together. -/
theorem not_applies_of_excludes {first second : RuleDeclaration} (excludes : first.Excludes second)
    (one : declarations.Applies place symbols first) :
    ¬ declarations.Applies place symbols second := by
  intro two
  obtain ⟨tape, entry, other, here, there, proper, otherProper, different⟩ := excludes
  have scanned := (Transition.accepts_iff_getElem?.1 one.2).2 tape entry here
  have otherScanned := (Transition.accepts_iff_getElem?.1 two.2).2 tape other there
  have same := (scanned.resolve_left proper).symm.trans (otherScanned.resolve_left otherProper)
  exact different (Option.some.inj same)

/-- A search goes past rules that do not apply. -/
theorem search_past {id : Nat} {first found : RuleDeclaration} {between : List RuleDeclaration}
    (after : List RuleDeclaration) (refused : ¬ declarations.Applies place symbols first)
    (others : declarations.search place symbols (id + 1) between = none)
    (applies : declarations.Applies place symbols found) :
    declarations.search place symbols id (first :: (between ++ found :: after)) =
      some (declarations.transition (id + 1 + between.length) found) := by
  rw [search, if_neg refused, search_append, others, Option.none_or, search, if_pos applies]

/-- Two rules of one state that exclude each other may change places if none of that state stands
    between them. A search finds the same, under the number that the rule had before. -/
theorem search_exchange_related {first second : RuleDeclaration}
    {between : List RuleDeclaration} (after : List RuleDeclaration) (id : Nat)
    (declared : first.source ∈ declarations.states) (same : first.source = second.source)
    (apart : ∀ rule ∈ between, rule.source ≠ first.source) (excludes : first.Excludes second) :
    Option.Rel (Transition.SameDeed (Equiv.swap id (id + 1 + between.length)))
      (declarations.search place symbols id (first :: (between ++ second :: after)))
      (declarations.search place symbols id (second :: (between ++ first :: after))) := by
  -- Where one of the two applies, the rules between them belong to other states.
  have between_refuses : declarations.place first.source = place →
      declarations.search place symbols (id + 1) between = none := by
    intro here
    apply search_eq_none_iff.2
    intro rule mem applies
    exact apart rule mem ((place_inj declared).1 (here.trans applies.1.symm)).symm
  by_cases one : declarations.Applies place symbols first
  · have two := not_applies_of_excludes excludes one
    rw [search_past after two (between_refuses one.1) one, search, if_pos one]
    exact .some ⟨(Equiv.swap_apply_right _ _).symm, rfl, rfl, rfl⟩
  · by_cases two : declarations.Applies place symbols second
    · have here : declarations.place first.source = place := same ▸ two.1
      rw [search_past after one (between_refuses here) two, search, if_pos two]
      exact .some ⟨(Equiv.swap_apply_left _ _).symm, rfl, rfl, rfl⟩
    · rw [search, search, if_neg one, if_neg two, search_append, search_append]
      apply rel_or
      · apply search_shift
        intro index bound
        exact (Equiv.swap_apply_of_ne_of_ne (by omega) (by omega)).symm
      · intro _
        rw [search, search, if_neg one, if_neg two]
        apply search_shift
        intro index _
        exact (Equiv.swap_apply_of_ne_of_ne (by omega) (by omega)).symm

/-- A rule behind one that covers it may be left out. -/
theorem build_without_covered {program : Program} (built : declarations.build = .ok program)
    {before after : List RuleDeclaration} {earlier rule : RuleDeclaration}
    (listed : declarations.rules = before ++ rule :: after) (mem : earlier ∈ before)
    (covers : earlier.Covers rule) :
    ∃ reduced, (declarations.withRules (before ++ after)).build = .ok reduced ∧
      program.RunsAlike (replacedNumber before.length 0) reduced := by
  have admitted := (build_eq_ok_iff.1 built).1.rules_admitted
  rw [listed] at admitted
  have length : earlier.read.length = rule.read.length := by
    have one := admitted earlier (List.mem_append_left _ mem)
    have two := admitted rule (List.mem_append_right _ List.mem_cons_self)
    exact one.read_length.trans two.read_length.symm
  -- Where no rule before it applies, the rule does not apply either.
  have missed : ∀ place symbols, declarations.search place symbols 1 before = none →
      declarations.search place symbols (before.length + 1) [rule] = none := by
    intro place symbols refused
    apply search_eq_none_iff.2
    rw [List.forall_mem_singleton]
    intro applies
    exact search_eq_none_iff.1 refused earlier mem (applies.of_covers covers length)
  have emptied : ∃ reduced, (declarations.withRules (before ++ [] ++ after)).build = .ok reduced ∧
      program.RunsAlike (replacedNumber before.length 0) reduced := by
    apply build_replaced_runsAlike built listed (List.forall_mem_nil _)
    intro place symbols _ _ refused
    rw [missed place symbols refused]
    exact .none
  rwa [List.append_nil] at emptied

/-- Two rules that follow each other among those of their state and exclude each other may change
    places. -/
theorem build_exchanged {program : Program} (built : declarations.build = .ok program)
    {before between after : List RuleDeclaration} {first second : RuleDeclaration}
    (listed : declarations.rules = before ++ first :: (between ++ second :: after))
    (same : first.source = second.source) (apart : ∀ rule ∈ between, rule.source ≠ first.source)
    (excludes : first.Excludes second) :
    ∃ exchanged,
      (declarations.withRules (before ++ second :: (between ++ first :: after))).build =
        .ok exchanged ∧
      program.RunsAlike (Equiv.swap (before.length + 1) (before.length + between.length + 2))
        exchanged := by
  have numbers : before.length + between.length + 2 = before.length + 1 + 1 + between.length := by
    omega
  rw [numbers]
  have admitted := (build_eq_ok_iff.1 built).1.rules_admitted
  rw [listed] at admitted
  have declared : first.source ∈ declarations.states :=
    (admitted first (List.mem_append_right _ List.mem_cons_self)).source_mem
  apply build_withRules_runsAlike built
  · intro rule mem
    apply admitted
    grind
  · intro place symbols _ _
    rw [listed, search_append, search_append, Nat.add_comm 1]
    apply rel_or
    · apply search_shift
      intro index bound
      exact (Equiv.swap_apply_of_ne_of_ne (by omega) (by omega)).symm
    · intro _
      exact search_exchange_related after _ declared same apart excludes

end Declarations

/-- Only the first match matters. Whatever was done to the machine of a built program, a step that executes
    a rule executes the one with the smallest number of all rules of the program that start in the
    current state and apply to the symbols under the heads. So a rule may be left out that stands behind
    one that covers it, and two rules may be exchanged that follow each other among those of their state
    and exclude each other: in both cases the program is built still, and on every input the machine
    runs alike, up to the numbers of the rules. -/
theorem first_match_decides {declarations : Declarations} {program : Program}
    (built : declarations.build = .ok program) :
    (∀ machine, Machine.Reachable program machine →
      machine.step.1.stepCount ≠ machine.stepCount →
        ∃ transition, machine.Executes transition ∧
          program.FirstMatch machine.current machine.symbols transition) ∧
    (∀ before rule after, declarations.rules = before ++ rule :: after →
      (∃ earlier ∈ before, earlier.Covers rule) →
        ∃ reduced, (declarations.withRules (before ++ after)).build = .ok reduced ∧
          program.RunsAlike (Declarations.replacedNumber before.length 0) reduced) ∧
    (∀ before first between second after,
      declarations.rules = before ++ first :: (between ++ second :: after) →
      first.source = second.source → (∀ rule ∈ between, rule.source ≠ first.source) →
      first.Excludes second →
        ∃ exchanged,
          (declarations.withRules (before ++ second :: (between ++ first :: after))).build =
            .ok exchanged ∧
          program.RunsAlike
            (Equiv.swap (before.length + 1) (before.length + between.length + 2)) exchanged) := by
  refine ⟨?_, ?_, ?_⟩
  · intro machine reachable counted
    obtain ⟨consistent, rfl⟩ := Declarations.build_eq_ok_iff.1 built
    obtain ⟨transition, rule, executes⟩ := Machine.executes_of_counted counted
    have sound := Machine.sound_of_reachable consistent.wellFormed reachable
    unfold Machine.nextRule? Machine.currentState at rule
    rw [sound.program_eq] at rule
    exact ⟨transition, executes, Declarations.firstMatch_of_ruleFor? consistent rule⟩
  · rintro before rule after listed ⟨earlier, mem, covers⟩
    exact Declarations.build_without_covered built listed mem covers
  · intro before first between second after listed same apart excludes
    exact Declarations.build_exchanged built listed same apart excludes

/-- A machine that changes zeros and ones until it comes to a blank. The rules of its two states stand
    between each other; the wildcard is read last in one state and first in the other. -/
def Declarations.overlapping : Declarations where
  states := ["even", "odd", "done"]
  inputAlphabet := Alphabet.ofList ['0', '1']
  tapeAlphabet := Alphabet.ofList ['0', '1', '_']
  initial := some "even"
  accepting := ["done"]
  rules :=
    [ ⟨"even", ['0'], "odd", ['1'], [.right]⟩,
      ⟨"odd", ['.'], "even", ['0'], [.right]⟩,
      ⟨"even", ['1'], "even", ['0'], [.right]⟩,
      ⟨"even", ['.'], "done", ['_'], [.stay]⟩,
      ⟨"odd", ['_'], "done", ['_'], [.stay]⟩ ]

/-- The first rule is executed on a zero although the fourth applies; the fifth may be left out; the first
    and the third may be exchanged. -/
theorem overlapping_by_first_match :
    Declarations.overlapping.build = .ok Declarations.overlapping.program ∧
    (∃ transition,
      ((Machine.ofProgram Declarations.overlapping.program).start ['0']).1.Executes transition ∧
      Declarations.overlapping.program.FirstMatch 0 ['0'] transition) ∧
    (∃ reduced,
      (Declarations.overlapping.withRules
        [ ⟨"even", ['0'], "odd", ['1'], [.right]⟩,
          ⟨"odd", ['.'], "even", ['0'], [.right]⟩,
          ⟨"even", ['1'], "even", ['0'], [.right]⟩,
          ⟨"even", ['.'], "done", ['_'], [.stay]⟩ ]).build = .ok reduced ∧
      Declarations.overlapping.program.RunsAlike (Declarations.replacedNumber 4 0) reduced) ∧
    (∃ exchanged,
      (Declarations.overlapping.withRules
        [ ⟨"even", ['1'], "even", ['0'], [.right]⟩,
          ⟨"odd", ['.'], "even", ['0'], [.right]⟩,
          ⟨"even", ['0'], "odd", ['1'], [.right]⟩,
          ⟨"even", ['.'], "done", ['_'], [.stay]⟩,
          ⟨"odd", ['_'], "done", ['_'], [.stay]⟩ ]).build = .ok exchanged ∧
      Declarations.overlapping.program.RunsAlike (Equiv.swap 1 3) exchanged) := by
  have built : Declarations.overlapping.build = .ok Declarations.overlapping.program := rfl
  obtain ⟨executed, covered, exchanged⟩ := first_match_decides built
  refine ⟨built, ?_, ?_, ?_⟩
  · exact executed _ ⟨[.start ['0']], rfl⟩ (by decide)
  · have covers : (⟨"odd", ['.'], "even", ['0'], [.right]⟩ : RuleDeclaration).Covers
        ⟨"odd", ['_'], "done", ['_'], [.stay]⟩ := by
      refine ⟨rfl, fun tape => ?_⟩
      cases tape with
      | zero => exact Or.inl rfl
      | succ tape => exact Or.inr rfl
    exact covered
      [ ⟨"even", ['0'], "odd", ['1'], [.right]⟩,
        ⟨"odd", ['.'], "even", ['0'], [.right]⟩,
        ⟨"even", ['1'], "even", ['0'], [.right]⟩,
        ⟨"even", ['.'], "done", ['_'], [.stay]⟩ ] _ [] rfl ⟨_, by decide, covers⟩
  · have excludes : (⟨"even", ['0'], "odd", ['1'], [.right]⟩ : RuleDeclaration).Excludes
        ⟨"even", ['1'], "even", ['0'], [.right]⟩ :=
      ⟨0, '0', '1', rfl, rfl, by decide, by decide, by decide⟩
    exact exchanged [] _ [⟨"odd", ['.'], "even", ['0'], [.right]⟩] _
      [ ⟨"even", ['.'], "done", ['_'], [.stay]⟩,
        ⟨"odd", ['_'], "done", ['_'], [.stay]⟩ ] rfl rfl (by decide) excludes

end Multitape
