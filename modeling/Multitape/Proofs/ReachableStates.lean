/-
Module: Multitape.Proofs.ReachableStates
Purpose: The search for reachable states comes to an end and finds them all, whichever pending state it
  takes next. A round of the search is a relation, so nothing depends on the order in which pending
  states are kept. Two facts are kept by every round: the states that are found or pending close the
  graph, and each round makes the search lighter.
Main exports: Program.Leads, Program.Reaches, Search, Program.Round, Program.Rounds, Search.Faithful,
  Search.weight, Rounds.count_le, exists_rounds_reachable, mem_reachable_iff, Declarations.Reaches,
  place_mem_reachable_iff
-/
import Mathlib.Logic.Relation
import Multitape.Analysis
import Multitape.Proofs.Assembly

namespace Multitape

/-! ### Paths -/

/-- A rule of a state leads to another state. -/
def Program.Leads (program : Program) (source target : Nat) : Prop :=
  target ∈ program.successors source

/-- Rules lead to a state from the initial one. -/
def Program.Reaches (program : Program) (place : Nat) : Prop :=
  Relation.ReflTransGen program.Leads program.initial place

/-! ### Rounds of a search -/

/-- A search in the middle of its work: the states that are found, and those that are pending. A state
    may be pending more than once. -/
structure Search where
  found : List Nat
  pending : List Nat

/-- Only the initial state is pending. -/
def Search.start (program : Program) : Search := ⟨[], [program.initial]⟩

/-- One round of a search takes any pending state away. A state that is new is found, and those of its
    successors that are not found become pending, each as often as a rule leads to it. -/
inductive Program.Round (program : Program) : Search → Search → Prop where
  | known {found pending rest : List Nat} {place : Nat} (taken : pending.Perm (place :: rest))
      (old : place ∈ found) :
      Round program ⟨found, pending⟩ ⟨found, rest⟩
  | fresh {found pending rest next : List Nat} {place : Nat} (taken : pending.Perm (place :: rest))
      (new : place ∉ found)
      (added : next.Perm ((program.successors place).filter (· ∉ place :: found) ++ rest)) :
      Round program ⟨found, pending⟩ ⟨place :: found, next⟩

/-- What a number of rounds lead to. -/
inductive Program.Rounds (program : Program) : Nat → Search → Search → Prop where
  | none (search : Search) : Rounds program 0 search search
  | more {count : Nat} {first middle last : Search} (round : program.Round first middle)
      (others : Rounds program count middle last) : Rounds program (count + 1) first last

variable {program : Program} {first last next search : Search}

/-! ### What every round keeps -/

/-- Everything that is found or pending is reached, and nothing that follows from what is found has been
    forgotten. -/
structure Search.Faithful (program : Program) (search : Search) : Prop where
  found_reached : ∀ place ∈ search.found, program.Reaches place
  pending_reached : ∀ place ∈ search.pending, program.Reaches place
  initial_kept : program.initial ∈ search.found ∨ program.initial ∈ search.pending
  closed : ∀ source ∈ search.found, ∀ target, program.Leads source target →
    target ∈ search.found ∨ target ∈ search.pending

theorem Search.faithful_start (program : Program) : (start program).Faithful program where
  found_reached := by
    intro place mem
    cases mem
  pending_reached := by
    intro place mem
    obtain rfl := List.mem_singleton.1 mem
    exact .refl
  initial_kept := Or.inr (List.mem_singleton_self _)
  closed := by
    intro source mem
    cases mem

/-- What was found or pending before a round is found or pending after it. -/
theorem Program.Round.kept (round : program.Round first next) {place : Nat}
    (mem : place ∈ first.found ∨ place ∈ first.pending) :
    place ∈ next.found ∨ place ∈ next.pending := by
  cases round with
  | known taken old =>
      rcases mem with found | pending
      · exact Or.inl found
      · rcases List.mem_cons.1 (taken.mem_iff.1 pending) with same | rest
        · subst same
          exact Or.inl old
        · exact Or.inr rest
  | fresh taken new added =>
      rcases mem with found | pending
      · exact Or.inl (List.mem_cons_of_mem _ found)
      · rcases List.mem_cons.1 (taken.mem_iff.1 pending) with same | rest
        · subst same
          exact Or.inl List.mem_cons_self
        · apply Or.inr
          apply added.mem_iff.2
          exact List.mem_append_right _ rest

theorem Program.Round.faithful (round : program.Round first next)
    (faithful : first.Faithful program) : next.Faithful program := by
  have initial := round.kept faithful.initial_kept
  have closed : ∀ source ∈ first.found, ∀ target, program.Leads source target →
      target ∈ next.found ∨ target ∈ next.pending := by
    intro source mem target leads
    exact round.kept (faithful.closed source mem target leads)
  cases round with
  | known taken old =>
      refine ⟨faithful.found_reached, ?_, initial, closed⟩
      intro place mem
      apply faithful.pending_reached
      exact taken.mem_iff.2 (List.mem_cons_of_mem _ mem)
  | @fresh found pending rest next place taken new added =>
      have reached : program.Reaches place := by
        apply faithful.pending_reached
        exact taken.mem_iff.2 List.mem_cons_self
      refine ⟨List.forall_mem_cons.2 ⟨reached, faithful.found_reached⟩, ?_, initial, ?_⟩
      · intro other mem
        rcases List.mem_append.1 (added.mem_iff.1 mem) with successor | mem
        · exact reached.tail (List.mem_filter.1 successor).1
        · apply faithful.pending_reached
          exact taken.mem_iff.2 (List.mem_cons_of_mem _ mem)
      · intro source mem target leads
        rcases List.mem_cons.1 mem with same | mem
        · subst same
          by_cases seen : target ∈ source :: found
          · exact Or.inl seen
          · apply Or.inr
            apply added.mem_iff.2
            apply List.mem_append_left
            exact List.mem_filter.2 ⟨leads, decide_eq_true seen⟩
        · exact closed source mem target leads

theorem Program.Rounds.faithful {count : Nat} (rounds : program.Rounds count first last)
    (faithful : first.Faithful program) : last.Faithful program := by
  induction rounds with
  | none search => exact faithful
  | more round others ih => exact ih (round.faithful faithful)

/-- When nothing is pending any more, exactly the reachable states are found. -/
theorem Search.Faithful.mem_found_iff (faithful : search.Faithful program)
    (done : search.pending = []) {place : Nat} :
    place ∈ search.found ↔ program.Reaches place := by
  have found : ∀ {other : Nat}, other ∈ search.found ∨ other ∈ search.pending →
      other ∈ search.found := by
    intro other mem
    rcases mem with mem | mem
    · exact mem
    · rw [done] at mem
      cases mem
  constructor
  · intro mem
    exact faithful.found_reached place mem
  · intro reached
    induction reached with
    | refl => exact found faithful.initial_kept
    | tail _ leads ih => exact found (faithful.closed _ ih _ leads)

/-! ### Every search comes to an end -/

/-- What is left to do: the pending states, and the rules of the states that are not found. -/
def Search.weight (program : Program) (search : Search) : Nat :=
  search.pending.length + ((program.unexplored search.found).flatMap program.successors).length

/-- The rules of a state that is found are no longer among those left to follow. -/
theorem Program.length_unexplored_successors {found : List Nat} {place : Nat} (new : place ∉ found) :
    ((program.unexplored found).flatMap program.successors).length =
      (program.successors place).length +
        ((program.unexplored (place :: found)).flatMap program.successors).length := by
  have nodup : (program.unexplored found).Nodup := List.nodup_range.filter _
  rw [unexplored_cons]
  by_cases inside : place < program.states.length
  · have mem : place ∈ program.unexplored found := by
      simp [unexplored, inside, new]
    have erased : (program.unexplored found).filter (· ≠ place) =
        (program.unexplored found).erase place := by
      rw [nodup.erase_eq_filter]
      apply List.filter_congr
      intro other _
      simp [bne, beq_eq_decide]
    have first := (List.perm_cons_erase mem).flatMap_right program.successors
    rw [erased, first.length_eq, List.flatMap_cons, List.length_append]
  · -- Beyond the last state nothing changes, and there are no rules.
    have outside : ∀ other ∈ program.unexplored found, decide (other ≠ place) = true := by
      intro other mem
      have bound : other < program.states.length := List.mem_range.1 (List.mem_filter.1 mem).1
      apply decide_eq_true
      omega
    rw [List.filter_eq_self.2 outside, successors_eq_nil (Nat.le_of_not_lt inside)]
    exact (Nat.zero_add _).symm

theorem Program.Round.weight_lt (round : program.Round first next) :
    next.weight program < first.weight program := by
  cases round with
  | known taken old =>
      have shorter := taken.length_eq
      simp only [Search.weight, shorter, List.length_cons]
      omega
  | @fresh found pending rest next place taken new added =>
      have shorter := taken.length_eq
      have longer := added.length_eq
      have fewer : ((program.successors place).filter (· ∉ place :: found)).length ≤
          (program.successors place).length := List.length_filter_le _ _
      have left := program.length_unexplored_successors new
      simp only [List.length_append, List.length_cons] at shorter longer
      simp only [Search.weight]
      omega

theorem Program.Rounds.count_add_weight_le {count : Nat} (rounds : program.Rounds count first last) :
    count + last.weight program ≤ first.weight program := by
  induction rounds with
  | none search => exact Nat.le_of_eq (Nat.zero_add _)
  | more round others ih =>
      have lighter := round.weight_lt
      omega

/-- At the start the initial state is pending, and all rules are left. -/
theorem Search.weight_start (program : Program) :
    (start program).weight program = program.transitionCount + 1 := by
  have states : (List.range program.states.length).map program.stateAt = program.states := by
    apply List.ext_getElem
    · simp
    · intro place lower upper
      simp [Program.stateAt_eq_getElem upper]
  have all : program.unexplored [] = List.range program.states.length := by
    simp [Program.unexplored]
  have targets : (List.range program.states.length).flatMap program.successors =
      program.transitions.map Transition.target := by
    rw [Program.transitions, List.map_flatMap]
    conv_rhs => rw [← states, List.flatMap_map]
    rfl
  rw [weight, start, all, targets, List.length_map]
  exact Nat.add_comm _ _

/-- However the pending states are taken, there are no more rounds than rules, and one for the initial
    state. -/
theorem Program.Rounds.count_le {count : Nat} (rounds : program.Rounds count (.start program) last) :
    count ≤ program.transitionCount + 1 := by
  have weights := rounds.count_add_weight_le
  rw [Search.weight_start] at weights
  omega

/-- As long as a state is pending there is another round. -/
theorem Search.exists_round {search : Search} (unfinished : search.pending ≠ []) :
    ∃ next, program.Round search next := by
  obtain ⟨found, pending⟩ := search
  obtain ⟨place, rest, same⟩ := List.exists_cons_of_ne_nil unfinished
  dsimp only at same
  subst same
  by_cases seen : place ∈ found
  · exact ⟨_, .known (.refl _) seen⟩
  · exact ⟨_, .fresh (.refl _) seen (.refl _)⟩

/-! ### The search that is made -/

/-- The search that takes the newest pending state first makes rounds until nothing is pending. -/
theorem Program.exists_rounds_explore (program : Program) (found pending : List Nat) :
    ∃ count, program.Rounds count ⟨found, pending⟩ ⟨program.explore found pending, []⟩ := by
  fun_induction program.explore found pending with
  | case1 found => exact ⟨0, .none _⟩
  | case2 found place rest old ih =>
      obtain ⟨count, rounds⟩ := ih
      exact ⟨count + 1, .more (.known (.refl _) old) rounds⟩
  | case3 found place rest new ih =>
      obtain ⟨count, rounds⟩ := ih
      exact ⟨count + 1, .more (.fresh (.refl _) new (.refl _)) rounds⟩

theorem Program.exists_rounds_reachable (program : Program) :
    ∃ count, program.Rounds count (.start program) ⟨program.reachable, []⟩ :=
  program.exists_rounds_explore [] [program.initial]

/-- A search that comes to its end has found exactly the reachable states. -/
theorem Program.Rounds.mem_found_iff {count : Nat}
    (rounds : program.Rounds count (.start program) last) (done : last.pending = []) {place : Nat} :
    place ∈ last.found ↔ program.Reaches place :=
  (rounds.faithful (Search.faithful_start program)).mem_found_iff done

theorem Program.mem_reachable_iff {place : Nat} :
    place ∈ program.reachable ↔ program.Reaches place := by
  obtain ⟨count, rounds⟩ := program.exists_rounds_reachable
  exact rounds.mem_found_iff rfl

/-! ### Paths along declared rules -/

namespace Declarations

variable {declarations : Declarations}

/-- A declared rule leads from one state to another. -/
def Leads (declarations : Declarations) (source target : String) : Prop :=
  ∃ rule ∈ declarations.rules, rule.source = source ∧ rule.target = target

/-- Declared rules lead to a state from the initial one. -/
def Reaches (declarations : Declarations) (name : String) : Prop :=
  ∃ initial, declarations.initial = some initial ∧
    Relation.ReflTransGen declarations.Leads initial name

/-- A rule of the table leads where the rule that was declared does. -/
theorem leads_program_iff (consistent : declarations.Consistent) {source target : Nat} :
    declarations.program.Leads source target ↔ ∃ rule ∈ declarations.rules,
      declarations.place rule.source = source ∧ declarations.place rule.target = target := by
  simp only [Program.Leads, Program.successors, transitions_stateAt consistent, List.mem_map,
    List.mem_filter, beq_iff_eq]
  constructor
  · rintro ⟨transition, ⟨mem, starts⟩, ends⟩
    obtain ⟨rule, ruleMem, number, rfl⟩ := exists_rule_of_mem mem
    exact ⟨rule, ruleMem, starts, ends⟩
  · rintro ⟨rule, ruleMem, starts, ends⟩
    obtain ⟨number, mem⟩ := exists_transition_of_mem 1 ruleMem
    exact ⟨_, ⟨mem, starts⟩, ends⟩

/-- A state of the table is reached exactly if the state of its name is. -/
theorem reaches_program_iff (consistent : declarations.Consistent) {name : String}
    (mem : name ∈ declarations.states) :
    declarations.program.Reaches (declarations.place name) ↔ declarations.Reaches name := by
  obtain ⟨initial, initialMem, named⟩ := consistent.initial_mem
  rw [Program.Reaches, program_initial named]
  constructor
  · intro reached
    -- Every place on the path is that of a declared state, since rules lead between such states.
    have path : ∀ place, Relation.ReflTransGen declarations.program.Leads
        (declarations.place initial) place → ∃ other ∈ declarations.states,
          declarations.place other = place ∧
            Relation.ReflTransGen declarations.Leads initial other := by
      intro place reached
      induction reached with
      | refl => exact ⟨initial, initialMem, rfl, .refl⟩
      | tail _ leads ih =>
          obtain ⟨other, otherMem, here, path⟩ := ih
          obtain ⟨rule, ruleMem, starts, ends⟩ := (leads_program_iff consistent).1 leads
          have admits := consistent.rules_admitted rule ruleMem
          have same : other = rule.source := (place_inj otherMem).1 (here.trans starts.symm)
          exact ⟨rule.target, admits.target_mem, ends, path.tail ⟨rule, ruleMem, same.symm, rfl⟩⟩
    obtain ⟨other, otherMem, here, path⟩ := path _ reached
    obtain rfl : other = name := (place_inj otherMem).1 here
    exact ⟨initial, named, path⟩
  · rintro ⟨other, otherNamed, path⟩
    obtain rfl := Option.some.inj (named.symm.trans otherNamed)
    refine path.lift declarations.place ?_
    rintro source target ⟨rule, ruleMem, rfl, rfl⟩
    exact (leads_program_iff consistent).2 ⟨rule, ruleMem, rfl, rfl⟩

/-- The places that the search finds are those of the states that declared rules lead to. -/
theorem place_mem_reachable_iff (consistent : declarations.Consistent) {name : String}
    (mem : name ∈ declarations.states) :
    declarations.place name ∈ declarations.program.reachable ↔ declarations.Reaches name :=
  Program.mem_reachable_iff.trans (reaches_program_iff consistent mem)

end Declarations

end Multitape
