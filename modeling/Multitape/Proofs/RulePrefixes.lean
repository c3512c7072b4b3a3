/-
Module: Multitape.Proofs.RulePrefixes
Purpose: Declarations with only their first rules.  Rules are checked last and in the order of their
  declaration, each for itself, so the first one that does not fit is the one that is told, and nothing
  that is declared after it matters.
Main exports: Declarations.checkOthers, build_eq_bind, resolveRules_append, exists_first_of_resolveRules,
  keepRules, BreaksAt, first_bad_rule_is_told
-/
import Multitape.Proofs.DeclarationOrder
import Multitape.Proofs.Defects
import Multitape.Proofs.RuleSearch

namespace Multitape.Declarations

/-- Check everything but the rules, and find the place of the initial state. -/
def checkOthers (declarations : Declarations) : Except Inconsistency Nat := do
  declarations.checkBasics
  let initial ← declarations.findInitial
  declarations.checkAccepting initial declarations.accepting
  return initial

/-- The same declarations with only the first of their rules. -/
def keepRules (declarations : Declarations) (count : Nat) : Declarations :=
  declarations.withRules (declarations.rules.take count)

/-- Declarations break at a rule: with the rules before it they make a program, and with it as well they
    make none. Rules are counted from 1. -/
def BreaksAt (declarations : Declarations) (count : Nat) : Prop :=
  (∃ program, (declarations.keepRules (count - 1)).build = .ok program) ∧
    ∃ cause, (declarations.keepRules count).build = .error cause

variable {declarations : Declarations} {cause : Inconsistency} {id : Nat}

/-! ### Rules one after the other -/

/-- A row of rules is resolved in parts, and a part that fails hides the one after it. -/
theorem resolveRules_append (first second : List RuleDeclaration) :
    declarations.resolveRules id (first ++ second) =
      (declarations.resolveRules id first).bind fun transitions =>
        (declarations.resolveRules (id + first.length) second).map (transitions ++ ·) := by
  induction first generalizing id with
  | nil =>
      cases resolved : declarations.resolveRules id second <;>
        simp [resolveRules, resolved, Except.bind, Except.map]
  | cons rule rules ih =>
      rw [List.cons_append, resolveRules, resolveRules, ih, List.length_cons,
        show id + (rules.length + 1) = id + 1 + rules.length by omega]
      cases declarations.resolveRule id rule with
      | error other => rfl
      | ok transition =>
          cases declarations.resolveRules (id + 1) rules with
          | error other => rfl
          | ok transitions =>
              cases declarations.resolveRules (id + 1 + rules.length) second <;> rfl

/-- Where a row of rules fails, there is a first rule that does. -/
theorem exists_first_of_resolveRules {rules : List RuleDeclaration}
    (failed : declarations.resolveRules id rules = .error cause) :
    ∃ before rule after transitions, rules = before ++ rule :: after ∧
      declarations.resolveRules id before = .ok transitions ∧
        declarations.resolveRule (id + before.length) rule = .error cause := by
  induction rules generalizing id with
  | nil => cases failed
  | cons rule rules ih =>
      rw [resolveRules] at failed
      cases resolved : declarations.resolveRule id rule with
      | error other =>
          rw [resolved] at failed
          cases failed
          exact ⟨[], rule, rules, [], rfl, rfl, resolved⟩
      | ok transition =>
          rw [resolved] at failed
          cases others : declarations.resolveRules (id + 1) rules with
          | ok transitions =>
              rw [others] at failed
              cases failed
          | error other =>
              rw [others] at failed
              cases failed
              obtain ⟨before, bad, after, transitions, rfl, fine, fails⟩ := ih others
              refine ⟨rule :: before, bad, after, transition :: transitions, rfl, ?_, ?_⟩
              · rw [resolveRules, resolved, fine]
                rfl
              · rwa [List.length_cons, show id + (before.length + 1) = id + 1 + before.length by omega]

/-- What a rule stands for does not depend on the others. -/
theorem resolveRules_withRules (others rules : List RuleDeclaration) :
    (declarations.withRules others).resolveRules id rules = declarations.resolveRules id rules := by
  induction rules generalizing id with
  | nil => rfl
  | cons rule rules ih =>
      have same : (declarations.withRules others).resolveRule id rule =
          declarations.resolveRule id rule := rfl
      rw [resolveRules, resolveRules, ih, same]

/-! ### Declarations with other rules -/

/-- Rules are looked at last. -/
theorem build_eq_bind (declarations : Declarations) :
    declarations.build = declarations.checkOthers.bind fun initial =>
      (declarations.resolveRules 1 declarations.rules).map (declarations.assemble initial) := by
  unfold build checkOthers
  cases declarations.checkBasics with
  | error other => rfl
  | ok _ =>
      cases declarations.findInitial with
      | error other => rfl
      | ok initial =>
          simp only [bind, Except.bind]
          cases declarations.checkAccepting initial declarations.accepting with
          | error other => rfl
          | ok _ =>
              simp only [pure, Except.pure]
              cases declarations.resolveRules 1 declarations.rules <;> rfl

theorem checkAccepting_withRules (rules : List RuleDeclaration) (initial : Nat) (names : List String) :
    (declarations.withRules rules).checkAccepting initial names =
      declarations.checkAccepting initial names := by
  induction names with
  | nil => rfl
  | cons name names ih =>
      have same : (declarations.withRules rules).findState name = declarations.findState name := rfl
      rw [checkAccepting, checkAccepting, ih, same]

/-- The other checks do not see the rules. -/
theorem build_withRules_eq_bind (rules : List RuleDeclaration) :
    (declarations.withRules rules).build = declarations.checkOthers.bind fun initial =>
      (declarations.resolveRules 1 rules).map ((declarations.withRules rules).assemble initial) := by
  have basics : (declarations.withRules rules).checkBasics = declarations.checkBasics := rfl
  have initial : (declarations.withRules rules).findInitial = declarations.findInitial := rfl
  have others : (declarations.withRules rules).checkOthers = declarations.checkOthers := by
    simp only [checkOthers, basics, initial, checkAccepting_withRules]
    rfl
  have own : (declarations.withRules rules).rules = rules := rfl
  rw [build_eq_bind, others, own]
  simp only [resolveRules_withRules]

/-- Whatever rules are declared after a failure, the failure stays as it is. -/
theorem build_withRules_append {rules : List RuleDeclaration}
    (failed : (declarations.withRules rules).build = .error cause) (more : List RuleDeclaration) :
    (declarations.withRules (rules ++ more)).build = .error cause := by
  rw [build_withRules_eq_bind] at failed ⊢
  cases others : declarations.checkOthers with
  | error other =>
      rw [others] at failed
      exact failed
  | ok initial =>
      rw [others] at failed
      cases resolved : declarations.resolveRules 1 rules with
      | error other =>
          rw [resolved] at failed
          rw [resolveRules_append, resolved]
          exact failed
      | ok transitions =>
          rw [resolved] at failed
          cases failed

/-- Declarations that would make a program without their rules fail at the first rule that fails: the rules
    before it would do no harm, and with it comes the failure that is told. -/
theorem exists_keepRules (others : ∃ program, (declarations.withRules []).build = .ok program)
    (failed : declarations.build = .error cause) :
    ∃ count, (∃ program, (declarations.keepRules count).build = .ok program) ∧
      (declarations.keepRules (count + 1)).build = .error cause := by
  obtain ⟨bare, builds⟩ := others
  rw [build_withRules_eq_bind] at builds
  cases checked : declarations.checkOthers with
  | error other =>
      rw [checked] at builds
      cases builds
  | ok initial =>
      have resolved : declarations.resolveRules 1 declarations.rules = .error cause := by
        rw [build_eq_bind, checked] at failed
        cases resolved : declarations.resolveRules 1 declarations.rules with
        | error other =>
            rw [resolved] at failed
            cases failed
            rfl
        | ok transitions =>
            rw [resolved] at failed
            cases failed
      obtain ⟨before, rule, after, transitions, parted, fine, fails⟩ :=
        exists_first_of_resolveRules resolved
      have upTo : declarations.rules.take before.length = before := by
        rw [parted, List.take_left]
      have withBad : declarations.rules.take (before.length + 1) = before ++ [rule] := by
        rw [parted, List.append_cons, ← List.length_singleton, ← List.length_append, List.take_left]
      refine ⟨before.length, ⟨(declarations.withRules before).assemble initial transitions, ?_⟩, ?_⟩
      · rw [keepRules, upTo, build_withRules_eq_bind, checked, fine]
        rfl
      · rw [keepRules, withBad, build_withRules_eq_bind, checked, resolveRules_append, fine]
        simp only [Except.bind, resolveRules, fails]
        rfl

/-- With more rules kept, a failure stays. -/
theorem build_keepRules_mono {count more : Nat} (within : count ≤ more)
    (failed : (declarations.keepRules count).build = .error cause) :
    (declarations.keepRules more).build = .error cause := by
  have parted := List.take_append_drop count (declarations.rules.take more)
  rw [List.take_take, Nat.min_eq_left within] at parted
  rw [keepRules, ← parted]
  exact build_withRules_append failed _

/-- Where declarations break, they do not break later. -/
theorem BreaksAt.le {count other : Nat} (breaks : declarations.BreaksAt count)
    (also : declarations.BreaksAt other) : other ≤ count := by
  obtain ⟨-, cause, failed⟩ := breaks
  obtain ⟨⟨program, builds⟩, -⟩ := also
  apply Classical.byContradiction
  intro later
  rw [build_keepRules_mono (by omega) failed] at builds
  cases builds

/-- What is told about a failure does not change when rules are declared after it. If the rules are to blame,
    because without them there would be a program, then there is one rule at which the declarations
    break, and what is told is what is told with that rule as the last one. -/
theorem first_bad_rule_is_told (failed : declarations.build = .error cause) :
    (∀ more : List RuleDeclaration,
      ((more.map Declaration.rule).foldl add declarations).build = .error cause) ∧
    ((∃ program, (declarations.withRules []).build = .ok program) →
      (∃! count, declarations.BreaksAt count) ∧
        ∀ count, declarations.BreaksAt count →
          (declarations.keepRules count).build = .error cause) := by
  constructor
  · intro more
    have whole : (declarations.withRules declarations.rules).build = .error cause := failed
    rw [foldl_add_rules]
    exact build_withRules_append whole more
  · intro others
    obtain ⟨count, builds, fails⟩ := exists_keepRules others failed
    have breaks : declarations.BreaksAt (count + 1) := ⟨builds, cause, fails⟩
    have only : ∀ other, declarations.BreaksAt other → other = count + 1 := fun other also =>
      Nat.le_antisymm (breaks.le also) (also.le breaks)
    refine ⟨⟨count + 1, breaks, only⟩, fun other also => ?_⟩
    rw [only other also]
    exact fails

/-- The machine that marks zeros with three rules: one of its own, one that writes the wildcard, and one that
    leaves the accepting state. -/
def misdeclared : Declarations :=
  marker.withRules
    [ ⟨"scan", ['0', '.'], "scan", ['0', '1'], [.right, .right]⟩,
      ⟨"scan", ['1', '.'], "scan", ['1', '.'], [.right, .stay]⟩,
      ⟨"done", ['1', '1'], "scan", ['1', '1'], [.stay, .stay]⟩ ]

/-- The second rule is told, also if another bad one is declared after the third. -/
theorem first_bad_rule_is_told_of_misdeclared :
    misdeclared.build = .error (.wildcardWritten "scan") ∧
      (([⟨"gone", [], "scan", [], []⟩].map Declaration.rule).foldl add misdeclared).build =
        .error (.wildcardWritten "scan") ∧
      (misdeclared.withRules []).build = .ok (misdeclared.withRules []).program ∧
      misdeclared.BreaksAt 2 ∧ (∃! count, misdeclared.BreaksAt count) ∧
      (misdeclared.keepRules 2).build = .error (.wildcardWritten "scan") := by
  have failed : misdeclared.build = .error (.wildcardWritten "scan") := rfl
  have bare : (misdeclared.withRules []).build = .ok (misdeclared.withRules []).program := rfl
  have breaks : misdeclared.BreaksAt 2 := ⟨⟨_, rfl⟩, _, rfl⟩
  obtain ⟨later, atOne⟩ := first_bad_rule_is_told failed
  obtain ⟨once, told⟩ := atOne ⟨_, bare⟩
  exact ⟨failed, later _, bare, breaks, once, told 2 breaks⟩

end Multitape.Declarations
