/-
Module: Multitape.Proofs.Defects
Purpose: What is wrong with declarations that make no program. `Defect` says of every reason that can be
  told what the declarations must look like for it to be true; `defect_of_build` that no other reason is
  told, and `Defect.not_consistent` that none of them is told of consistent declarations.
Main exports: Declarations.Mentions, Declarations.Defect, Declarations.defect_of_build,
  Declarations.Defect.not_consistent, Declarations.builds_iff_consistent
-/
import Multitape.Proofs.Consistency

namespace Multitape.Declarations

/-- A name that must be declared as a state: it is the initial one, it accepts, or a rule starts or ends
    there. -/
inductive Mentions (declarations : Declarations) (name : String) : Prop where
  | initial (named : declarations.initial = some name)
  | accepting (mem : name ∈ declarations.accepting)
  | source {rule : RuleDeclaration} (declared : rule ∈ declarations.rules) (same : rule.source = name)
  | target {rule : RuleDeclaration} (declared : rule ∈ declarations.rules) (same : rule.target = name)

/-- A reason why declarations make no program is true of them. A reason that names a rule by its source
    is true of one rule with that source. -/
inductive Defect (declarations : Declarations) : Inconsistency → Prop where
  | noTapes (none : declarations.tapeCount = 0) : Defect declarations .noTapes
  | noStates (none : declarations.states = []) : Defect declarations .noStates
  | duplicateState {name : String} (repeated : 1 < declarations.states.count name) :
      Defect declarations (.duplicateState name)
  | wildcardInTapeAlphabet (mem : wildcard ∈ declarations.tapeAlphabet) :
      Defect declarations .wildcardInTapeAlphabet
  | foreignBlank (foreign : declarations.blank ∉ declarations.tapeAlphabet) :
      Defect declarations (.foreignBlank declarations.blank declarations.tapeAlphabet)
  | noInitialState (none : declarations.initial = none) : Defect declarations .noInitialState
  | unknownState {name : String} (mentioned : declarations.Mentions name)
      (undeclared : name ∉ declarations.states) : Defect declarations (.unknownState name)
  | acceptingInitialState {name : String} (accepting : name ∈ declarations.accepting)
      (initial : declarations.initial = some name) :
      Defect declarations (.acceptingInitialState name)
  | acceptingSource {rule : RuleDeclaration} (declared : rule ∈ declarations.rules)
      (accepting : rule.source ∈ declarations.accepting) :
      Defect declarations (.acceptingSource rule.source)
  | entryCount {rule : RuleDeclaration} (declared : rule ∈ declarations.rules)
      (uneven : ¬ (rule.read.length = declarations.tapeCount ∧
        rule.write.length = declarations.tapeCount ∧
          rule.directions.length = declarations.tapeCount)) :
      Defect declarations (.entryCount rule.source declarations.tapeCount rule.read.length
        rule.write.length rule.directions.length)
  | foreignRead {rule : RuleDeclaration} {symbol : Char} (declared : rule ∈ declarations.rules)
      (read : symbol ∈ rule.read) (notWild : symbol ≠ wildcard)
      (foreign : symbol ∉ declarations.tapeAlphabet) :
      Defect declarations (.foreignRead symbol rule.source declarations.tapeAlphabet)
  | wildcardWritten {rule : RuleDeclaration} (declared : rule ∈ declarations.rules)
      (written : wildcard ∈ rule.write) : Defect declarations (.wildcardWritten rule.source)
  | foreignWrite {rule : RuleDeclaration} {symbol : Char} (declared : rule ∈ declarations.rules)
      (written : symbol ∈ rule.write) (foreign : symbol ∉ declarations.tapeAlphabet) :
      Defect declarations (.foreignWrite symbol rule.source declarations.tapeAlphabet)

variable {declarations : Declarations} {cause : Inconsistency} {rule : RuleDeclaration}

/-! ### A defect is an inconsistency -/

theorem Consistent.mem_of_mentions {name : String} (consistent : declarations.Consistent)
    (mentioned : declarations.Mentions name) : name ∈ declarations.states := by
  cases mentioned with
  | initial named =>
      obtain ⟨initial, mem, same⟩ := consistent.initial_mem
      obtain rfl := Option.some.inj (same.symm.trans named)
      exact mem
  | accepting mem => exact (consistent.accepting_mem name mem).1
  | source declared same => exact same ▸ (consistent.rules_admitted _ declared).source_mem
  | target declared same => exact same ▸ (consistent.rules_admitted _ declared).target_mem

/-- Consistent declarations have no defect. -/
theorem Defect.not_consistent (defect : declarations.Defect cause) : ¬ declarations.Consistent := by
  intro consistent
  cases defect with
  | noTapes none => exact absurd none (Nat.ne_of_gt consistent.tapes_pos)
  | noStates none => exact consistent.states_ne_nil none
  | duplicateState repeated =>
      exact absurd (List.nodup_iff_count_le_one.1 consistent.states_nodup _) (Nat.not_le.2 repeated)
  | wildcardInTapeAlphabet mem => exact consistent.wildcard_not_mem mem
  | foreignBlank foreign => exact foreign consistent.blank_mem
  | noInitialState none =>
      obtain ⟨name, -, named⟩ := consistent.initial_mem
      simp [none] at named
  | unknownState mentioned undeclared => exact undeclared (consistent.mem_of_mentions mentioned)
  | acceptingInitialState accepting initial => exact (consistent.accepting_mem _ accepting).2 initial
  | acceptingSource declared accepting =>
      exact (consistent.rules_admitted _ declared).source_not_accepting accepting
  | entryCount declared uneven =>
      have admits := consistent.rules_admitted _ declared
      exact uneven ⟨admits.read_length, admits.write_length, admits.directions_length⟩
  | foreignRead declared read notWild foreign =>
      have known := (consistent.rules_admitted _ declared).read_mem _ read
      exact known.elim notWild foreign
  | wildcardWritten declared written =>
      exact consistent.wildcard_not_mem ((consistent.rules_admitted _ declared).write_mem _ written)
  | foreignWrite declared written foreign =>
      exact foreign ((consistent.rules_admitted _ declared).write_mem _ written)

/-! ### Every check tells a defect -/

/-- A name that is reported occurs for a second time. -/
theorem count_of_firstRepeated? {names seen : List String} {name : String}
    (found : firstRepeated? seen names = some name) : 1 < (seen ++ names).count name := by
  induction names generalizing seen with
  | nil => simp [firstRepeated?] at found
  | cons first rest ih =>
      unfold firstRepeated? at found
      by_cases old : first ∈ seen
      · rw [if_pos old] at found
        obtain rfl := Option.some.inj found
        have before : 0 < seen.count first := List.count_pos_iff.2 old
        simp only [List.count_append, List.count_cons_self]
        omega
      · rw [if_neg old] at found
        have later := ih found
        rwa [List.perm_middle.count_eq]

theorem defect_of_checkBasics (failed : declarations.checkBasics = .error cause) :
    declarations.Defect cause := by
  unfold checkBasics at failed
  by_cases tapes : declarations.tapeCount = 0
  · rw [if_pos tapes] at failed
    cases failed
    exact .noTapes tapes
  by_cases states : declarations.states = []
  · rw [if_neg tapes, if_pos states] at failed
    cases failed
    exact .noStates states
  rw [if_neg tapes, if_neg states] at failed
  cases repeated : firstRepeated? [] declarations.states with
  | some name =>
      simp only [repeated] at failed
      cases failed
      exact .duplicateState (count_of_firstRepeated? repeated)
  | none =>
      simp only [repeated] at failed
      by_cases wild : declarations.tapeAlphabet.contains wildcard = true
      · rw [if_pos wild] at failed
        cases failed
        exact .wildcardInTapeAlphabet (Alphabet.contains_iff.1 wild)
      by_cases blank : declarations.tapeAlphabet.contains declarations.blank = true
      · simp [wild, blank] at failed
      · rw [if_neg wild, if_neg blank] at failed
        cases failed
        exact .foreignBlank (mt Alphabet.contains_iff.2 blank)

theorem findState_eq_error_iff {name : String} :
    declarations.findState name = .error cause ↔
      name ∉ declarations.states ∧ cause = .unknownState name := by
  unfold findState
  cases found : declarations.states.idxOf? name with
  | none =>
      rw [List.idxOf?_eq_none_iff] at found
      simp only [Except.error.injEq, found, not_false_eq_true, true_and]
      exact eq_comm
  | some place =>
      have mem : name ∈ declarations.states := by
        rw [← List.isSome_idxOf?, found]
        rfl
      simp [mem]

/-- A name is looked for where it is mentioned, and not found if it is not declared. -/
theorem defect_of_findState {name : String} (mentioned : declarations.Mentions name)
    (failed : declarations.findState name = .error cause) : declarations.Defect cause := by
  obtain ⟨undeclared, rfl⟩ := findState_eq_error_iff.1 failed
  exact .unknownState mentioned undeclared

theorem defect_of_findInitial (failed : declarations.findInitial = .error cause) :
    declarations.Defect cause := by
  unfold findInitial at failed
  cases initial : declarations.initial with
  | none =>
      simp only [initial] at failed
      cases failed
      exact .noInitialState initial
  | some name =>
      simp only [initial] at failed
      exact defect_of_findState (.initial initial) failed

theorem defect_of_checkAccepting {initial : String} {names : List String}
    (named : declarations.initial = some initial)
    (accepting : ∀ name ∈ names, name ∈ declarations.accepting)
    (failed : declarations.checkAccepting (declarations.place initial) names = .error cause) :
    declarations.Defect cause := by
  induction names with
  | nil => simp [checkAccepting] at failed
  | cons first rest ih =>
      obtain ⟨mem, others⟩ := List.forall_mem_cons.1 accepting
      unfold checkAccepting at failed
      cases found : declarations.findState first with
      | error other =>
          simp only [found] at failed
          cases failed
          exact defect_of_findState (.accepting mem) found
      | ok place =>
          obtain ⟨declared, rfl⟩ := findState_eq_ok_iff.1 found
          simp only [found, place_inj declared] at failed
          by_cases same : first = initial
          · rw [if_pos same] at failed
            cases failed
            exact .acceptingInitialState mem (same ▸ named)
          · rw [if_neg same] at failed
            exact ih others failed

theorem defect_of_checkEntries (declared : rule ∈ declarations.rules)
    (failed : declarations.checkEntries rule = .error cause) : declarations.Defect cause := by
  unfold checkEntries at failed
  dsimp only at failed
  by_cases lengths : rule.read.length = declarations.tapeCount ∧
      rule.write.length = declarations.tapeCount ∧ rule.directions.length = declarations.tapeCount
  · rw [if_pos lengths] at failed
    cases foreignRead : rule.read.find? _ with
    | some symbol =>
        rw [foreignRead] at failed
        cases failed
        have foreign := List.find?_some foreignRead
        simp only [Bool.and_eq_true, bne_iff_ne, ne_eq, Bool.not_eq_true'] at foreign
        refine .foreignRead declared (List.mem_of_find?_eq_some foreignRead) foreign.1 ?_
        simpa [← Alphabet.contains_iff] using foreign.2
    | none =>
        rw [foreignRead] at failed
        by_cases wild : wildcard ∈ rule.write
        · simp only [List.contains_eq_mem, wild, decide_true, if_true] at failed
          cases failed
          exact .wildcardWritten declared wild
        · simp only [List.contains_eq_mem, wild, decide_false, Bool.false_eq_true, if_false] at failed
          cases foreignWrite : rule.write.find? _ with
          | none =>
              rw [foreignWrite] at failed
              cases failed
          | some symbol =>
              rw [foreignWrite] at failed
              cases failed
              refine .foreignWrite declared (List.mem_of_find?_eq_some foreignWrite) ?_
              simpa [← Alphabet.contains_iff] using List.find?_some foreignWrite
  · rw [if_neg lengths] at failed
    cases failed
    exact .entryCount declared lengths

theorem defect_of_resolveRule {id : Nat} (declared : rule ∈ declarations.rules)
    (failed : declarations.resolveRule id rule = .error cause) : declarations.Defect cause := by
  unfold resolveRule at failed
  cases source : declarations.findState rule.source with
  | error other =>
      simp only [source] at failed
      cases failed
      exact defect_of_findState (.source declared rfl) source
  | ok _ =>
      cases target : declarations.findState rule.target with
      | error other =>
          simp only [source, target] at failed
          cases failed
          exact defect_of_findState (.target declared rfl) target
      | ok _ =>
          simp only [source, target] at failed
          by_cases accepting : rule.source ∈ declarations.accepting
          · rw [if_pos accepting] at failed
            cases failed
            exact .acceptingSource declared accepting
          · rw [if_neg accepting] at failed
            cases entries : declarations.checkEntries rule with
            | error other =>
                simp only [entries] at failed
                cases failed
                exact defect_of_checkEntries declared entries
            | ok _ => simp [entries] at failed

theorem defect_of_resolveRules {rules : List RuleDeclaration} {id : Nat}
    (declared : ∀ rule ∈ rules, rule ∈ declarations.rules)
    (failed : declarations.resolveRules id rules = .error cause) : declarations.Defect cause := by
  induction rules generalizing id with
  | nil => simp [resolveRules] at failed
  | cons rule rules ih =>
      obtain ⟨mem, members⟩ := List.forall_mem_cons.1 declared
      unfold resolveRules at failed
      cases resolved : declarations.resolveRule id rule with
      | error other =>
          simp only [resolved] at failed
          cases failed
          exact defect_of_resolveRule mem resolved
      | ok transition =>
          cases others : declarations.resolveRules (id + 1) rules with
          | error other =>
              simp only [resolved, others, Except.map] at failed
              cases failed
              exact ih members others
          | ok _ => simp [resolved, others, Except.map] at failed

/-! ### The verdict -/

/-- A row of checks fails at one of them. -/
theorem bind_eq_error {α β : Type} {result : Except Inconsistency α}
    {next : α → Except Inconsistency β} (failed : (result >>= next) = .error cause) :
    result = .error cause ∨ ∃ value, result = .ok value ∧ next value = .error cause := by
  cases result with
  | error other => exact Or.inl (congrArg Except.error (Except.error.inj failed))
  | ok value => exact Or.inr ⟨value, rfl, failed⟩

/-- A reason that is told is true of the declarations. -/
theorem defect_of_build (failed : declarations.build = .error cause) : declarations.Defect cause := by
  unfold build at failed
  obtain basics | ⟨_, -, failed⟩ := bind_eq_error failed
  · exact defect_of_checkBasics basics
  obtain initial | ⟨place, initial, failed⟩ := bind_eq_error failed
  · exact defect_of_findInitial initial
  -- From here on the initial state is known to be declared, and accepting states are compared with it.
  obtain ⟨name, -, named, rfl⟩ := findInitial_eq_ok_iff.1 initial
  obtain accepting | ⟨_, -, failed⟩ := bind_eq_error failed
  · exact defect_of_checkAccepting named (fun _ mem => mem) accepting
  obtain rules | ⟨_, -, failed⟩ := bind_eq_error failed
  · exact defect_of_resolveRules (fun _ mem => mem) rules
  · cases failed

/-- Declarations, however they were made, are built exactly if they are consistent. All others are
    refused as invalid, for a reason that is true of them. -/
theorem builds_iff_consistent (list : List Declaration) :
    ((∃ program, (ofList list).build = .ok program) ↔ (ofList list).Consistent) ∧
      ((∃ cause, (ofList list).build = .error cause ∧ (ofList list).Defect cause ∧
        (Error.inconsistent cause).kind = .invalid) ↔ ¬ (ofList list).Consistent) := by
  constructor
  · constructor
    · rintro ⟨program, built⟩
      exact (build_eq_ok_iff.1 built).1
    · intro consistent
      exact ⟨_, build_eq_ok_iff.2 ⟨consistent, rfl⟩⟩
  · constructor
    · rintro ⟨cause, -, defect, -⟩
      exact defect.not_consistent
    · intro inconsistent
      cases result : (ofList list).build with
      | ok program => exact absurd (build_eq_ok_iff.1 result).1 inconsistent
      | error cause => exact ⟨cause, rfl, defect_of_build result, rfl⟩

end Multitape.Declarations
