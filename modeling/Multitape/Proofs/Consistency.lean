/-
Module: Multitape.Proofs.Consistency
Purpose: Which declarations make a program, and which program they make. Each check of `build` is
  settled by one lemma that says when it passes; `build_eq_ok_iff` puts them together, so that later
  modules never open a check again.
Main exports: Declarations.Admits, Declarations.Consistent, Declarations.place,
  Declarations.program, Admits.of_same, transitionsFrom_of_same, build_eq_ok_iff
-/
import Mathlib.Data.List.Basic
import Mathlib.Data.List.Nodup
import Multitape.Declarations

namespace Multitape.Declarations

/-! ### Consistency without a check -/

/-- A rule fits the other declarations: its states are declared and the first one does not accept,
    and it has a tape symbol or the wildcard to read, a tape symbol to write and a direction for
    each tape. -/
structure Admits (declarations : Declarations) (rule : RuleDeclaration) : Prop where
  source_mem : rule.source ∈ declarations.states
  target_mem : rule.target ∈ declarations.states
  source_not_accepting : rule.source ∉ declarations.accepting
  read_length : rule.read.length = declarations.tapeCount
  write_length : rule.write.length = declarations.tapeCount
  directions_length : rule.directions.length = declarations.tapeCount
  read_mem : ∀ symbol ∈ rule.read, symbol = wildcard ∨ symbol ∈ declarations.tapeAlphabet
  write_mem : ∀ symbol ∈ rule.write, symbol ∈ declarations.tapeAlphabet

/-- Declarations that fit together. -/
structure Consistent (declarations : Declarations) : Prop where
  tapes_pos : 0 < declarations.tapeCount
  states_ne_nil : declarations.states ≠ []
  states_nodup : declarations.states.Nodup
  wildcard_not_mem : wildcard ∉ declarations.tapeAlphabet
  blank_mem : declarations.blank ∈ declarations.tapeAlphabet
  initial_mem : ∃ name ∈ declarations.states, declarations.initial = some name
  accepting_mem : ∀ name ∈ declarations.accepting,
    name ∈ declarations.states ∧ declarations.initial ≠ some name
  rules_admitted : ∀ rule ∈ declarations.rules, declarations.Admits rule

/-! ### The program without a check -/

/-- The place of a name among the declared states, counted from 0. -/
def place (declarations : Declarations) (name : String) : Nat := declarations.states.idxOf name

/-- The rule that a declaration stands for, under a number. -/
def transition (declarations : Declarations) (id : Nat) (rule : RuleDeclaration) : Transition where
  id := id
  source := declarations.place rule.source
  target := declarations.place rule.target
  read := rule.read
  write := rule.write
  directions := rule.directions

/-- The rules that a row of declarations stands for, numbered from `id` on. -/
def transitionsFrom (declarations : Declarations) : Nat → List RuleDeclaration → List Transition
  | _, [] => []
  | id, rule :: rules =>
      declarations.transition id rule :: declarations.transitionsFrom (id + 1) rules

/-- All declared rules in the order of their declaration. -/
def transitions (declarations : Declarations) : List Transition :=
  declarations.transitionsFrom 1 declarations.rules

/-- The place of the initial state. -/
def initialPlace (declarations : Declarations) : Nat :=
  declarations.place (declarations.initial.getD "")

/-- The program that consistent declarations make. -/
def program (declarations : Declarations) : Program :=
  declarations.assemble declarations.initialPlace declarations.transitions

/-! ### What rules depend on -/

section Others

variable {first second : Declarations}

/-- The fit of a rule depends on the states, the tapes and the tape alphabet. -/
theorem Admits.of_same {rule : RuleDeclaration} (admits : first.Admits rule)
    (states : second.states = first.states)
    (accepting : ∀ name ∈ second.accepting, name ∈ first.accepting)
    (tapeCount : second.tapeCount = first.tapeCount)
    (tapeAlphabet : second.tapeAlphabet = first.tapeAlphabet) : second.Admits rule where
  source_mem := states ▸ admits.source_mem
  target_mem := states ▸ admits.target_mem
  source_not_accepting := fun mem => admits.source_not_accepting (accepting rule.source mem)
  read_length := admits.read_length.trans tapeCount.symm
  write_length := admits.write_length.trans tapeCount.symm
  directions_length := admits.directions_length.trans tapeCount.symm
  read_mem := tapeAlphabet ▸ admits.read_mem
  write_mem := tapeAlphabet ▸ admits.write_mem

/-- What a row of rules stands for depends on the states only. -/
theorem transitionsFrom_of_same (states : second.states = first.states) (id : Nat)
    (rules : List RuleDeclaration) :
    second.transitionsFrom id rules = first.transitionsFrom id rules := by
  induction rules generalizing id with
  | nil => rfl
  | cons rule rules ih =>
      have same : second.transition id rule = first.transition id rule := by
        simp only [transition, place, states]
      rw [transitionsFrom, transitionsFrom, same, ih]

end Others

/-! ### When each check passes -/

variable {declarations : Declarations}

/-- No name is reported exactly when all are new and different. -/
theorem firstRepeated?_eq_none_iff {names seen : List String} :
    firstRepeated? seen names = none ↔ names.Nodup ∧ ∀ name ∈ names, name ∉ seen := by
  induction names generalizing seen with
  | nil => simp [firstRepeated?]
  | cons first rest ih =>
      by_cases old : first ∈ seen
      · simp [firstRepeated?, old]
      · simp only [firstRepeated?, old, if_false, ih, List.nodup_cons, List.mem_cons, not_or]
        constructor
        · intro given
          rcases given with ⟨nodup, fresh⟩
          refine ⟨⟨fun mem => (fresh first mem).1 rfl, nodup⟩, ?_⟩
          rintro name (rfl | mem)
          · exact old
          · exact (fresh name mem).2
        · intro given
          rcases given with ⟨⟨notMem, nodup⟩, fresh⟩
          refine ⟨nodup, fun name mem => ⟨?_, fresh name (Or.inr mem)⟩⟩
          intro same
          subst same
          exact notMem mem

theorem checkBasics_eq_ok_iff :
    declarations.checkBasics = .ok () ↔
      0 < declarations.tapeCount ∧ declarations.states ≠ [] ∧ declarations.states.Nodup ∧
        wildcard ∉ declarations.tapeAlphabet ∧ declarations.blank ∈ declarations.tapeAlphabet := by
  unfold checkBasics
  by_cases tapes : declarations.tapeCount = 0
  · simp [tapes]
  by_cases states : declarations.states = []
  · simp [tapes, states]
  have positive : 0 < declarations.tapeCount := Nat.pos_of_ne_zero tapes
  rw [if_neg tapes, if_neg states]
  cases repeated : firstRepeated? [] declarations.states with
  | some name =>
      have notNodup : ¬ declarations.states.Nodup := fun nodup => by
        have fresh : ∀ other ∈ declarations.states, other ∉ ([] : List String) := by simp
        rw [firstRepeated?_eq_none_iff.2 ⟨nodup, fresh⟩] at repeated
        cases repeated
      simp [notNodup]
  | none =>
      have nodup : declarations.states.Nodup := (firstRepeated?_eq_none_iff.1 repeated).1
      by_cases wild : wildcard ∈ declarations.tapeAlphabet
      · simp [wild]
      · by_cases blank : declarations.blank ∈ declarations.tapeAlphabet
        · simp [wild, blank, positive, states, nodup]
        · simp [wild, blank]

/-- A state is found exactly when it is declared, and then at its place. -/
theorem findState_eq_ok_iff {name : String} {place : Nat} :
    declarations.findState name = .ok place ↔
      name ∈ declarations.states ∧ place = declarations.place name := by
  unfold findState
  cases found : declarations.states.idxOf? name with
  | none =>
      rw [List.idxOf?_eq_none_iff] at found
      simp [found]
  | some index =>
      have mem : name ∈ declarations.states := by
        rw [← List.isSome_idxOf?, found]
        rfl
      have same : index = declarations.place name := by
        rw [List.idxOf?, List.findIdx?_eq_some_iff_findIdx_eq] at found
        exact found.2.symm
      simp only [Except.ok.injEq, mem, true_and, same]
      exact eq_comm

/-- Two declared names at one place are one name. -/
theorem place_inj {name other : String} (mem : name ∈ declarations.states) :
    declarations.place name = declarations.place other ↔ name = other :=
  List.idxOf_inj mem

theorem place_lt {name : String} (mem : name ∈ declarations.states) :
    declarations.place name < declarations.states.length :=
  List.idxOf_lt_length_of_mem mem

theorem findInitial_eq_ok_iff {place : Nat} :
    declarations.findInitial = .ok place ↔
      ∃ name ∈ declarations.states, declarations.initial = some name ∧
        place = declarations.place name := by
  unfold findInitial
  cases declarations.initial with
  | none => simp
  | some name =>
      simp only [findState_eq_ok_iff, Option.some.injEq]
      constructor
      · intro given
        rcases given with ⟨mem, same⟩
        exact ⟨name, mem, rfl, same⟩
      · intro given
        rcases given with ⟨_, mem, rfl, same⟩
        exact ⟨mem, same⟩

theorem checkAccepting_eq_ok_iff {initial : String} {names : List String} :
    declarations.checkAccepting (declarations.place initial) names = .ok () ↔
      ∀ name ∈ names, name ∈ declarations.states ∧ name ≠ initial := by
  induction names with
  | nil => simp [checkAccepting]
  | cons first rest ih =>
      simp only [List.forall_mem_cons]
      unfold checkAccepting
      cases found : declarations.findState first with
      | error cause =>
          have undeclared : first ∉ declarations.states := fun mem => by
            rw [findState_eq_ok_iff.2 ⟨mem, rfl⟩] at found
            cases found
          simp [undeclared]
      | ok place =>
          obtain ⟨mem, rfl⟩ := findState_eq_ok_iff.1 found
          by_cases same : first = initial
          · simp [same]
          · simp [place_inj mem, same, mem, ih]

theorem checkEntries_eq_ok_iff {rule : RuleDeclaration} :
    declarations.checkEntries rule = .ok () ↔
      (rule.read.length = declarations.tapeCount ∧ rule.write.length = declarations.tapeCount ∧
        rule.directions.length = declarations.tapeCount) ∧
      (∀ symbol ∈ rule.read, symbol = wildcard ∨ symbol ∈ declarations.tapeAlphabet) ∧
      wildcard ∉ rule.write ∧ ∀ symbol ∈ rule.write, symbol ∈ declarations.tapeAlphabet := by
  unfold checkEntries
  dsimp only
  by_cases lengths : rule.read.length = declarations.tapeCount ∧
      rule.write.length = declarations.tapeCount ∧ rule.directions.length = declarations.tapeCount
  · rw [if_pos lengths, and_iff_right lengths]
    cases foreignRead : rule.read.find? _ with
    | some symbol =>
        have mem := List.mem_of_find?_eq_some foreignRead
        have foreign := List.find?_some foreignRead
        simp only [Bool.and_eq_true, bne_iff_ne, ne_eq, Bool.not_eq_true'] at foreign
        simp only [reduceCtorEq, false_iff, not_and]
        intro reads
        rcases reads symbol mem with same | known
        · exact absurd same foreign.1
        · simp [Alphabet.contains_iff.2 known] at foreign
    | none =>
        have reads :
            ∀ symbol ∈ rule.read, symbol = wildcard ∨ symbol ∈ declarations.tapeAlphabet := by
          simpa [or_iff_not_imp_left] using foreignRead
        rw [and_iff_right reads]
        by_cases wild : wildcard ∈ rule.write
        · simp [wild]
        · cases foreignWrite : rule.write.find? (!declarations.tapeAlphabet.contains ·) with
          | some symbol =>
              have mem := List.mem_of_find?_eq_some foreignWrite
              have foreign := List.find?_some foreignWrite
              simp only [List.contains_eq_mem, wild, decide_false, Bool.false_eq_true, if_false,
                reduceCtorEq, not_false_eq_true, true_and, false_iff]
              intro writes
              simp [Alphabet.contains_iff.2 (writes symbol mem)] at foreign
          | none => simpa [wild] using foreignWrite
  · rw [if_neg lengths]
    simp [lengths]

/-- A rule is resolved exactly when it is admitted, and then it is the rule that its declaration
    stands for. The wildcard needs no clause of its own: where it is no tape symbol it cannot be
    written. -/
theorem resolveRule_eq_ok_iff (wild : wildcard ∉ declarations.tapeAlphabet) {id : Nat}
    {rule : RuleDeclaration} {transition : Transition} :
    declarations.resolveRule id rule = .ok transition ↔
      declarations.Admits rule ∧ transition = declarations.transition id rule := by
  unfold resolveRule
  cases source : declarations.findState rule.source with
  | error cause =>
      have undeclared : ¬ declarations.Admits rule := fun admits => by
        rw [findState_eq_ok_iff.2 ⟨admits.source_mem, rfl⟩] at source
        cases source
      simp [undeclared]
  | ok sourcePlace =>
      obtain ⟨sourceMem, rfl⟩ := findState_eq_ok_iff.1 source
      cases target : declarations.findState rule.target with
      | error cause =>
          have undeclared : ¬ declarations.Admits rule := fun admits => by
            rw [findState_eq_ok_iff.2 ⟨admits.target_mem, rfl⟩] at target
            cases target
          simp [undeclared]
      | ok targetPlace =>
          obtain ⟨targetMem, rfl⟩ := findState_eq_ok_iff.1 target
          by_cases accepting : rule.source ∈ declarations.accepting
          · have notAdmitted : ¬ declarations.Admits rule :=
              fun admits => admits.source_not_accepting accepting
            simp [accepting, notAdmitted]
          · simp only [accepting, if_false]
            cases entries : declarations.checkEntries rule with
            | error cause =>
                have notAdmitted : ¬ declarations.Admits rule := fun admits => by
                  rw [checkEntries_eq_ok_iff.2
                    ⟨⟨admits.read_length, admits.write_length, admits.directions_length⟩,
                      admits.read_mem, fun mem => wild (admits.write_mem _ mem),
                      admits.write_mem⟩] at entries
                  cases entries
                simp [notAdmitted]
            | ok _ =>
                obtain ⟨⟨reads, writes, directions⟩, readMem, -, writeMem⟩ :=
                  checkEntries_eq_ok_iff.1 entries
                have admits : declarations.Admits rule :=
                  { source_mem := sourceMem, target_mem := targetMem,
                    source_not_accepting := accepting, read_length := reads, write_length := writes,
                    directions_length := directions, read_mem := readMem, write_mem := writeMem }
                simp only [Except.ok.injEq, admits, true_and, Declarations.transition]
                exact eq_comm

theorem resolveRules_eq_ok_iff (wild : wildcard ∉ declarations.tapeAlphabet)
    {rules : List RuleDeclaration} {id : Nat} {transitions : List Transition} :
    declarations.resolveRules id rules = .ok transitions ↔
      (∀ rule ∈ rules, declarations.Admits rule) ∧
        transitions = declarations.transitionsFrom id rules := by
  induction rules generalizing id transitions with
  | nil => simp [resolveRules, transitionsFrom, eq_comm]
  | cons rule rules ih =>
      simp only [List.forall_mem_cons, transitionsFrom]
      unfold resolveRules
      cases resolved : declarations.resolveRule id rule with
      | error cause =>
          have notAdmitted : ¬ declarations.Admits rule := fun admits => by
            rw [(resolveRule_eq_ok_iff wild).2 ⟨admits, rfl⟩] at resolved
            cases resolved
          simp [notAdmitted]
      | ok transition =>
          obtain ⟨admits, rfl⟩ := (resolveRule_eq_ok_iff wild).1 resolved
          cases others : declarations.resolveRules (id + 1) rules with
          | error cause =>
              have notAdmitted : ¬ ∀ rule ∈ rules, declarations.Admits rule := fun admitted => by
                rw [ih.2 ⟨admitted, rfl⟩] at others
                cases others
              simp [Except.map, notAdmitted]
          | ok transitions =>
              obtain ⟨admitted, rfl⟩ := ih.1 others
              simp only [Except.map, Except.ok.injEq, and_iff_right admits, and_iff_right admitted]
              exact eq_comm

/-! ### When declarations make a program -/

/-- Declarations make a program exactly when they are consistent, and there is one program that they
    make. -/
theorem build_eq_ok_iff {program : Program} :
    declarations.build = .ok program ↔
      declarations.Consistent ∧ program = declarations.program := by
  constructor
  · intro built
    unfold build at built
    cases basics : declarations.checkBasics with
    | error cause => simp [basics, bind, Except.bind] at built
    | ok _ =>
    cases initial : declarations.findInitial with
    | error cause => simp [basics, initial, bind, Except.bind] at built
    | ok place =>
    cases accepting : declarations.checkAccepting place declarations.accepting with
    | error cause => simp [basics, initial, accepting, bind, Except.bind] at built
    | ok _ =>
    cases rules : declarations.resolveRules 1 declarations.rules with
    | error cause => simp [basics, initial, accepting, rules, bind, Except.bind] at built
    | ok transitions =>
    simp only [basics, initial, accepting, rules, bind, Except.bind, pure, Except.pure,
      Except.ok.injEq] at built
    obtain ⟨tapes, states, nodup, wild, blank⟩ := checkBasics_eq_ok_iff.1 basics
    obtain ⟨name, mem, named, rfl⟩ := findInitial_eq_ok_iff.1 initial
    obtain ⟨admitted, rfl⟩ := (resolveRules_eq_ok_iff wild).1 rules
    have others := checkAccepting_eq_ok_iff.1 accepting
    refine ⟨⟨tapes, states, nodup, wild, blank, ⟨name, mem, named⟩, ?_, admitted⟩, ?_⟩
    · intro other otherMem
      obtain ⟨declared, different⟩ := others other otherMem
      refine ⟨declared, fun same => different ?_⟩
      rw [named] at same
      exact (Option.some.inj same).symm
    · simp [← built, Declarations.program, Declarations.transitions, initialPlace, named]
  · intro given
    rcases given with ⟨consistent, rfl⟩
    obtain ⟨name, mem, named⟩ := consistent.initial_mem
    have basics : declarations.checkBasics = .ok () :=
      checkBasics_eq_ok_iff.2 ⟨consistent.tapes_pos, consistent.states_ne_nil,
        consistent.states_nodup, consistent.wildcard_not_mem, consistent.blank_mem⟩
    have initial : declarations.findInitial = .ok (declarations.place name) :=
      findInitial_eq_ok_iff.2 ⟨name, mem, named, rfl⟩
    have accepting : declarations.checkAccepting (declarations.place name) declarations.accepting =
        .ok () := by
      refine checkAccepting_eq_ok_iff.2 fun other otherMem => ?_
      obtain ⟨declared, different⟩ := consistent.accepting_mem other otherMem
      refine ⟨declared, ?_⟩
      intro same
      subst same
      exact different named
    have rules : declarations.resolveRules 1 declarations.rules = .ok declarations.transitions :=
      (resolveRules_eq_ok_iff consistent.wildcard_not_mem).2 ⟨consistent.rules_admitted, rfl⟩
    simp [build, basics, initial, accepting, rules, bind, Except.bind, pure, Except.pure,
      Declarations.program, initialPlace, named]

end Multitape.Declarations
