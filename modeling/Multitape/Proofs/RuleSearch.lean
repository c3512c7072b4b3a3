/-
Module: Multitape.Proofs.RuleSearch
Purpose: The rule that a state takes is the first declared rule that starts there and applies, so a search
  goes over the declarations and not over the states of the table. A row of declarations can be searched
  in parts; what a part gives depends on where it stands by the numbers of its rules only.
Main exports: Transition.accepts_iff_getElem?, Transition.SameDeed, Declarations.withRules,
  Consistent.withRules, Declarations.Applies, Declarations.search, search_append, search_shift,
  ruleFor?_stateAt_withRules
-/
import Multitape.Proofs.Tabulation

namespace Multitape

/-! ### Reading tape by tape -/

/-- Read entries accept the symbols under the heads if each is the wildcard or the symbol of its tape. -/
theorem Transition.accepts_iff_getElem? {entries symbols : List Char} :
    accepts entries symbols = true ↔ entries.length = symbols.length ∧
      ∀ (tape : Nat) (entry : Char), entries[tape]? = some entry →
        entry = wildcard ∨ symbols[tape]? = some entry := by
  induction entries generalizing symbols with
  | nil => cases symbols <;> simp [accepts]
  | cons first entries ih =>
      cases symbols with
      | nil => simp [accepts]
      | cons symbol symbols =>
          have parted : (∀ (tape : Nat) (entry : Char), (first :: entries)[tape]? = some entry →
              entry = wildcard ∨ (symbol :: symbols)[tape]? = some entry) ↔
              (first = wildcard ∨ first = symbol) ∧
                ∀ (tape : Nat) (entry : Char), entries[tape]? = some entry →
                  entry = wildcard ∨ symbols[tape]? = some entry := by
            rw [← Nat.and_forall_add_one]
            simp [eq_comm]
          rw [parted, accepts, Bool.and_eq_true, Bool.or_eq_true, beq_iff_eq, beq_iff_eq, ih,
            List.length_cons, List.length_cons, Nat.add_right_cancel_iff]
          exact and_left_comm

/-! ### What a rule does -/

/-- Two rules do the same, under numbers of which one translates to the other. What they read is left
    open. -/
structure Transition.SameDeed (number : Nat → Nat) (first second : Transition) : Prop where
  id_eq : first.id = number second.id
  target_eq : second.target = first.target
  write_eq : second.write = first.write
  directions_eq : second.directions = first.directions

/-- Searches agree part by part. The second part matters only if nothing is found in the first. -/
theorem rel_or {α β : Type} {related : α → β → Prop} {first next : Option α} {second after : Option β}
    (here : Option.Rel related first second)
    (there : first = none → Option.Rel related next after) :
    Option.Rel related (first.or next) (second.or after) := by
  cases here with
  | none => exact there rfl
  | some both => exact .some both

namespace Declarations

variable {declarations : Declarations}

/-! ### Other rules for the same states -/

/-- The same declarations with other rules. -/
def withRules (declarations : Declarations) (rules : List RuleDeclaration) : Declarations :=
  { declarations with rules := rules }

/-- Rules may be replaced by any that fit. -/
theorem Consistent.withRules (consistent : declarations.Consistent) {rules : List RuleDeclaration}
    (admitted : ∀ rule ∈ rules, declarations.Admits rule) :
    (declarations.withRules rules).Consistent where
  tapes_pos := consistent.tapes_pos
  states_ne_nil := consistent.states_ne_nil
  states_nodup := consistent.states_nodup
  wildcard_not_mem := consistent.wildcard_not_mem
  blank_mem := consistent.blank_mem
  initial_mem := consistent.initial_mem
  accepting_mem := consistent.accepting_mem
  rules_admitted := by
    intro rule mem
    exact (admitted rule mem).of_same rfl (fun _ accepting => accepting) rfl rfl

/-! ### Searching declarations -/

/-- A rule starts at a place and applies to the symbols under the heads. -/
def Applies (declarations : Declarations) (place : Nat) (symbols : List Char)
    (rule : RuleDeclaration) : Prop :=
  declarations.place rule.source = place ∧ Transition.accepts rule.read symbols = true

instance (place : Nat) (symbols : List Char) (rule : RuleDeclaration) :
    Decidable (declarations.Applies place symbols rule) :=
  inferInstanceAs (Decidable (_ ∧ _))

/-- The first rule of a row that applies, numbered from `id` on. -/
def search (declarations : Declarations) (place : Nat) (symbols : List Char) :
    Nat → List RuleDeclaration → Option Transition
  | _, [] => none
  | id, rule :: rules =>
      if declarations.Applies place symbols rule then some (declarations.transition id rule)
      else declarations.search place symbols (id + 1) rules

section Search

variable {place : Nat} {symbols : List Char} {id : Nat} {rules : List RuleDeclaration}

/-- Searching declarations is searching the rules that they stand for. -/
theorem search_eq_find? (place : Nat) (symbols : List Char) (id : Nat) (rules : List RuleDeclaration) :
    declarations.search place symbols id rules =
      (declarations.transitionsFrom id rules).find? fun transition =>
        decide (transition.source = place ∧ transition.isApplicable symbols = true) := by
  induction rules generalizing id with
  | nil => rfl
  | cons rule rules ih =>
      have same : ((declarations.transition id rule).source = place ∧
          (declarations.transition id rule).isApplicable symbols = true) ↔
            declarations.Applies place symbols rule := Iff.rfl
      rw [search, transitionsFrom, List.find?_cons, ih]
      simp only [same]
      by_cases applies : declarations.Applies place symbols rule <;> simp [applies]

theorem search_eq_none_iff :
    declarations.search place symbols id rules = none ↔
      ∀ rule ∈ rules, ¬ declarations.Applies place symbols rule := by
  induction rules generalizing id with
  | nil => simp [search]
  | cons rule rules ih =>
      rw [search, List.forall_mem_cons, ← @ih (id + 1)]
      by_cases applies : declarations.Applies place symbols rule <;> simp [applies]

/-- What a search finds is a rule of the row, numbered by where it stands. -/
theorem exists_of_search_eq_some {transition : Transition}
    (found : declarations.search place symbols id rules = some transition) :
    ∃ index rule, rules[index]? = some rule ∧ declarations.Applies place symbols rule ∧
      transition = declarations.transition (id + index) rule := by
  induction rules generalizing id with
  | nil => cases found
  | cons rule rules ih =>
      rw [search] at found
      by_cases applies : declarations.Applies place symbols rule
      · rw [if_pos applies] at found
        cases found
        exact ⟨0, rule, rfl, applies, rfl⟩
      · rw [if_neg applies] at found
        obtain ⟨index, other, listed, otherApplies, rfl⟩ := ih found
        refine ⟨index + 1, other, listed, otherApplies, ?_⟩
        rw [Nat.add_right_comm, Nat.add_assoc]

theorem search_append (place : Nat) (symbols : List Char) (id : Nat)
    (rules others : List RuleDeclaration) :
    declarations.search place symbols id (rules ++ others) =
      (declarations.search place symbols id rules).or
        (declarations.search place symbols (id + rules.length) others) := by
  induction rules generalizing id with
  | nil => rfl
  | cons rule rules ih =>
      rw [List.cons_append, search, search, ih, List.length_cons, Nat.add_right_comm, Nat.add_assoc]
      by_cases applies : declarations.Applies place symbols rule <;> simp [applies]

/-- A row finds the same rule wherever it stands, under a number that is translated. -/
theorem search_shift {number : Nat → Nat} {other : Nat}
    (numbered : ∀ index < rules.length, id + index = number (other + index)) :
    Option.Rel (Transition.SameDeed number) (declarations.search place symbols id rules)
      (declarations.search place symbols other rules) := by
  induction rules generalizing id other with
  | nil => exact .none
  | cons rule rules ih =>
      rw [search, search]
      by_cases applies : declarations.Applies place symbols rule
      · rw [if_pos applies, if_pos applies]
        exact .some ⟨numbered 0 (Nat.succ_pos _), rfl, rfl, rfl⟩
      · rw [if_neg applies, if_neg applies]
        apply ih
        intro index bound
        have later := numbered (index + 1) (Nat.succ_lt_succ bound)
        rw [Nat.add_right_comm, Nat.add_assoc, later, Nat.add_right_comm, Nat.add_assoc]

end Search

/-- The rule that a state takes is the first declared one that starts there and applies. -/
theorem ruleFor?_stateAt_withRules (consistent : declarations.Consistent)
    {rules : List RuleDeclaration} (admitted : ∀ rule ∈ rules, declarations.Admits rule)
    (place : Nat) (symbols : List Char) :
    ((declarations.withRules rules).program.stateAt place).ruleFor? symbols =
      declarations.search place symbols 1 rules := by
  have states : (declarations.withRules rules).states = declarations.states := rfl
  have same : (declarations.withRules rules).transitions = declarations.transitionsFrom 1 rules :=
    transitionsFrom_of_same states 1 rules
  rw [State.ruleFor?, transitions_stateAt (consistent.withRules admitted), List.find?_filter,
    search_eq_find?, same]
  simp only [beq_iff_eq]

end Declarations

end Multitape
