/-
Module: Multitape.Proofs.TranslatedRuns
Purpose: A machine does not know what its symbols and its states are called, nor at which places its
  states stand. Where one table is another one with symbols and names translated and states moved,
  fresh machines of both stay translations of each other, whatever input they are started with and
  however many steps they make.
Main exports: Program.Translated, Machine.Translated, Translated.inStep, Translated.start,
  translated_runs, Declarations.Translated, Translated.builds_iff, program_translated
-/
import Mathlib.Tactic.MkIffOfInductiveProp
import Multitape.Proofs.MachineInvariant
import Multitape.Proofs.Translation

namespace Multitape

/-! ### Tables -/

/-- One table is another one with its symbols and names translated. The state of each place has moved to
    another place. -/
structure Program.Translated (translation : Translation) (move : Nat → Nat)
    (program other : Program) : Prop where
  inputAlphabet_eq : other.inputAlphabet = translation.alphabet program.inputAlphabet
  tapeAlphabet_eq : other.tapeAlphabet = translation.alphabet program.tapeAlphabet
  blank_eq : other.blank = translation.symbol program.blank
  tapeCount_eq : other.tapeCount = program.tapeCount
  initial_eq : other.initial = move program.initial
  stateAt_eq : ∀ place < program.states.length,
    other.stateAt (move place) = translation.state move (program.stateAt place)

variable {translation : Translation} {move : Nat → Nat} {program other : Program}

/-- A foreign symbol is one in both languages. -/
theorem Program.Translated.foreignInput?_eq (translated : program.Translated translation move other)
    (input : List Char) :
    other.foreignInput? (translation.word input) =
      (program.foreignInput? input).map translation.symbol := by
  unfold Program.foreignInput? Translation.word
  rw [List.find?_map, translated.inputAlphabet_eq]
  congr 2
  funext symbol
  simp [bne, Bool.beq_eq_decide_eq]

/-! ### Machines -/

namespace Machine

/-- One machine of a table is a translation of one of another table. -/
structure Translated (translation : Translation) (move : Nat → Nat) (program other : Program)
    (first second : Machine) : Prop where
  sound : first.Sound program
  program_eq : second.program = other
  current_eq : second.current = move first.current
  lastTransition_eq : second.lastTransition = first.lastTransition
  stepCount_eq : second.stepCount = first.stepCount
  status_eq : second.status = first.status.retell translation.rejection
  tapes_eq : second.tapes = first.tapes.map translation.tape

variable {first second : Machine}

namespace Translated

theorem currentState_eq (tables : program.Translated translation move other)
    (translated : Translated translation move program other first second) :
    second.currentState = translation.state move first.currentState := by
  rw [currentState, currentState, translated.program_eq, translated.current_eq,
    translated.sound.program_eq]
  exact tables.stateAt_eq first.current translated.sound.current_lt

theorem symbols_eq (translated : Translated translation move program other first second) :
    second.symbols = translation.word first.symbols := by
  simp [symbols, Translation.word, translated.tapes_eq]

theorem nextRule?_eq (tables : program.Translated translation move other)
    (translated : Translated translation move program other first second) :
    second.nextRule? = first.nextRule?.map (translation.transition move) := by
  rw [nextRule?, translated.currentState_eq tables, translated.symbols_eq]
  exact translation.ruleFor?_state move first.currentState first.symbols

theorem stuckHalt_eq (tables : program.Translated translation move other)
    (translated : Translated translation move program other first second) :
    second.stuckHalt = first.stuckHalt.retell translation.rejection := by
  rw [stuckHalt, translated.currentState_eq tables, translated.symbols_eq]
  rfl

/-- The tapes are read and the status is replaced, on both sides. -/
theorem readTapes (wellFormed : program.WellFormed)
    (translated : Translated translation move program other first second) (status : Status) :
    Translated translation move program other { first.readTapes with status := status }
      { second.readTapes with status := status.retell translation.rejection } where
  sound := (translated.sound.readTapes wellFormed).withStatus status
  program_eq := translated.program_eq
  current_eq := translated.current_eq
  lastTransition_eq := translated.lastTransition_eq
  stepCount_eq := translated.stepCount_eq
  status_eq := rfl
  tapes_eq := by simp [Machine.readTapes, translated.tapes_eq]

/-- A rule is taken and the status is replaced, on both sides. -/
theorem apply (wellFormed : program.WellFormed)
    (translated : Translated translation move program other first second) {transition : Transition}
    (fits : program.Fits transition) (status : Status) :
    Translated translation move program other
      { first.readTapes.apply transition with status := status }
      { second.readTapes.apply (translation.transition move transition) with
        status := status.retell translation.rejection } where
  sound := ((translated.sound.readTapes wellFormed).apply wellFormed fits).withStatus status
  program_eq := translated.program_eq
  current_eq := rfl
  lastTransition_eq := rfl
  stepCount_eq := congrArg (· + 1) translated.stepCount_eq
  status_eq := rfl
  tapes_eq := by
    have read := (translated.readTapes wellFormed status).tapes_eq
    have executed := translation.execute_transition move transition first.readTapes.tapes
    rw [← read] at executed
    exact executed

/-- Both machines find a rule or none, and what they do then translates. -/
theorem inStep (tables : program.Translated translation move other)
    (wellFormed : program.WellFormed)
    (translated : Translated translation move program other first second) :
    InStep translation.rejection (Translated translation move program other) first second where
  kept := translated
  status_eq := translated.status_eq
  stuck := by
    intro _ _
    exact ⟨translated.stuckHalt_eq tables, translated.readTapes wellFormed⟩
  rules := by
    intro _
    rw [translated.nextRule?_eq tables]
    cases found : first.nextRule? with
    | none => exact .none
    | some transition =>
        have fits := translated.sound.fits_of_nextRule? wellFormed found
        refine .some ⟨?_, translated.apply wellFormed fits⟩
        rw [translated.program_eq, translated.sound.program_eq]
        have moved := tables.stateAt_eq transition.target fits.target_lt
        have accepting := congrArg State.accepting moved
        exact accepting

/-- Both machines are loaded alike, or refuse the same symbol. -/
theorem start (tables : program.Translated translation move other)
    (wellFormed : program.WellFormed)
    (translated : Translated translation move program other first second) (input : List Char) :
    (second.start (translation.word input)).2 = translation.answer (first.start input).2 ∧
      Translated translation move program other (first.start input).1
        (second.start (translation.word input)).1 := by
  have foreign : second.program.foreignInput? (translation.word input) =
      (first.program.foreignInput? input).map translation.symbol := by
    rw [translated.program_eq, translated.sound.program_eq]
    exact tables.foreignInput?_eq input
  have seeding := translation.seed_tapes first.tapes input
  rw [← translated.tapes_eq] at seeding
  have sound := translated.sound.start wellFormed input
  have outcome := first.start_outcome input
  generalize (first.start input).1 = next at outcome sound ⊢
  generalize (first.start input).2 = result at outcome ⊢
  cases outcome with
  | foreign found =>
      rw [found] at foreign
      rw [(StartOutcome.foreign foreign).start_eq]
      exact ⟨rfl, { translated with sound := sound, status_eq := rfl }⟩
  | refused known seeded =>
      rw [known] at foreign
      rw [seeded] at seeding
      rw [(StartOutcome.refused foreign seeding).start_eq]
      exact ⟨rfl, { translated with sound := sound, status_eq := rfl, tapes_eq := rfl }⟩
  | loaded known seeded =>
      rw [known] at foreign
      rw [seeded] at seeding
      rw [(StartOutcome.loaded foreign seeding).start_eq]
      exact ⟨rfl, { translated with sound := sound, status_eq := rfl, tapes_eq := rfl }⟩

end Translated

/-- Fresh machines are translations of each other. -/
theorem translated_ofProgram (tables : program.Translated translation move other)
    (wellFormed : program.WellFormed) :
    Translated translation move program other (ofProgram program) (ofProgram other) where
  sound := sound_ofProgram wellFormed
  program_eq := rfl
  current_eq := tables.initial_eq
  lastTransition_eq := rfl
  stepCount_eq := rfl
  status_eq := rfl
  tapes_eq := by
    simp only [ofProgram, List.map_replicate, Translation.tape_withBlank, tables.tapeCount_eq,
      tables.tapeAlphabet_eq, tables.blank_eq]

/-- What fresh machines of translated tables answer to an input and to every step after it, and what they
    are then. -/
theorem translated_runs (tables : program.Translated translation move other)
    (wellFormed : program.WellFormed) (input : List Char) :
    ((ofProgram other).start (translation.word input)).2 =
        translation.answer ((ofProgram program).start input).2 ∧
      ∀ count,
        (Machine.stepTimes count ((ofProgram other).start (translation.word input)).1).step.2 =
            (Machine.stepTimes count ((ofProgram program).start input).1).step.2.retell
              translation.rejection ∧
          Translated translation move program other
            (Machine.stepTimes count ((ofProgram program).start input).1)
            (Machine.stepTimes count ((ofProgram other).start (translation.word input)).1) := by
  obtain ⟨answers, started⟩ :=
    (translated_ofProgram tables wellFormed).start tables wellFormed input
  exact ⟨answers, kept_stepTimes (fun stands => stands.inStep tables wellFormed) started⟩

end Machine

/-! ### Declarations -/

namespace Translation

variable (translation : Translation)

/-- A declared rule with its symbols and its states translated. -/
def rule (rule : RuleDeclaration) : RuleDeclaration where
  source := translation.name rule.source
  read := translation.word rule.read
  target := translation.name rule.target
  write := translation.word rule.write
  directions := rule.directions

end Translation

attribute [mk_iff] Declarations.Admits Declarations.Consistent

namespace Declarations

variable {first second : Declarations}

/-- The same is declared in other words. The states may be declared in another order. -/
structure Translated (translation : Translation) (first second : Declarations) : Prop where
  states_perm : second.states.Perm (first.states.map translation.name)
  inputAlphabet_eq : second.inputAlphabet = translation.alphabet first.inputAlphabet
  tapeAlphabet_eq : second.tapeAlphabet = translation.alphabet first.tapeAlphabet
  blank_eq : second.blank = translation.symbol first.blank
  tapeCount_eq : second.tapeCount = first.tapeCount
  initial_eq : second.initial = first.initial.map translation.name
  accepting_eq : second.accepting = first.accepting.map translation.name
  rules_eq : second.rules = first.rules.map translation.rule

namespace Translated

theorem name_mem_states (translated : first.Translated translation second) {name : String} :
    translation.name name ∈ second.states ↔ name ∈ first.states := by
  rw [translated.states_perm.mem_iff, List.mem_map_of_injective translation.name_injective]

theorem name_mem_accepting (translated : first.Translated translation second) {name : String} :
    translation.name name ∈ second.accepting ↔ name ∈ first.accepting := by
  rw [translated.accepting_eq, List.mem_map_of_injective translation.name_injective]

theorem symbol_mem_tapeAlphabet (translated : first.Translated translation second) {symbol : Char} :
    translation.symbol symbol ∈ second.tapeAlphabet ↔ symbol ∈ first.tapeAlphabet := by
  rw [translated.tapeAlphabet_eq, Translation.symbol_mem_alphabet]

theorem wildcard_mem_tapeAlphabet (translated : first.Translated translation second) :
    wildcard ∈ second.tapeAlphabet ↔ wildcard ∈ first.tapeAlphabet := by
  have mem : translation.symbol wildcard ∈ second.tapeAlphabet ↔ wildcard ∈ first.tapeAlphabet :=
    translated.symbol_mem_tapeAlphabet
  rwa [translation.symbol_wildcard] at mem

/-- A rule fits what was declared if its translation fits the translation. -/
theorem admits_rule_iff (translated : first.Translated translation second)
    {rule : RuleDeclaration} : second.Admits (translation.rule rule) ↔ first.Admits rule := by
  simp only [admits_iff, Translation.rule, Translation.word, List.length_map, List.forall_mem_map,
    translated.name_mem_states, translated.name_mem_accepting, translated.tapeCount_eq,
    translated.symbol_mem_tapeAlphabet, Translation.symbol_eq_wildcard_iff]

theorem states_eq_nil_iff (translated : first.Translated translation second) :
    second.states = [] ↔ first.states = [] := by
  rw [← List.length_eq_zero_iff, translated.states_perm.length_eq, List.length_map,
    List.length_eq_zero_iff]

theorem initial_eq_some_iff (translated : first.Translated translation second) {name : String} :
    second.initial = some (translation.name name) ↔ first.initial = some name := by
  rw [translated.initial_eq, Option.map_eq_some_iff]
  constructor
  · intro given
    obtain ⟨other, named, same⟩ := given
    rwa [translation.name_injective same] at named
  · intro named
    exact ⟨name, named, rfl⟩

theorem initial_mem_iff (translated : first.Translated translation second) :
    (∃ name ∈ second.states, second.initial = some name) ↔
      ∃ name ∈ first.states, first.initial = some name := by
  rw [translated.initial_eq]
  cases first.initial with
  | none => simp
  | some initial => simp [translated.name_mem_states]

/-- A translation is consistent if what was translated is. -/
theorem consistent_iff (translated : first.Translated translation second) :
    second.Consistent ↔ first.Consistent := by
  have nodup : second.states.Nodup ↔ first.states.Nodup := by
    rw [translated.states_perm.nodup_iff, List.nodup_map_iff translation.name_injective]
  have blank : second.blank ∈ second.tapeAlphabet ↔ first.blank ∈ first.tapeAlphabet := by
    rw [translated.blank_eq, translated.symbol_mem_tapeAlphabet]
  have accepting : (∀ name ∈ second.accepting, name ∈ second.states ∧ second.initial ≠ some name) ↔
      ∀ name ∈ first.accepting, name ∈ first.states ∧ first.initial ≠ some name := by
    rw [translated.accepting_eq, List.forall_mem_map]
    simp only [ne_eq, translated.name_mem_states, translated.initial_eq_some_iff]
  have rules : (∀ rule ∈ second.rules, second.Admits rule) ↔
      ∀ rule ∈ first.rules, first.Admits rule := by
    rw [translated.rules_eq, List.forall_mem_map]
    simp only [translated.admits_rule_iff]
  rw [Declarations.consistent_iff, Declarations.consistent_iff, translated.tapeCount_eq, nodup,
    blank, accepting, rules, translated.initial_mem_iff, translated.wildcard_mem_tapeAlphabet,
    ne_eq, ne_eq, translated.states_eq_nil_iff]

theorem builds_iff (translated : first.Translated translation second) :
    (∃ program, second.build = .ok program) ↔ ∃ program, first.build = .ok program := by
  simp only [build_eq_ok_iff, exists_and_left, exists_eq, and_true, translated.consistent_iff]

end Translated

/-! ### The tables of translated declarations -/

/-- Where the state of a place stands once it is translated. -/
def movedPlace (translation : Translation) (first second : Declarations) (place : Nat) : Nat :=
  second.place (translation.name (first.program.stateAt place).name)

theorem movedPlace_place (consistent : first.Consistent) {name : String} (mem : name ∈ first.states) :
    movedPlace translation first second (first.place name) =
      second.place (translation.name name) := by
  rw [movedPlace, stateAt_place consistent.states_nodup mem]
  rfl

namespace Translated

/-- Places are the same in translation only for the same state. -/
theorem place_eq_iff (translated : first.Translated translation second) {name other : String}
    (mem : name ∈ first.states) :
    second.place (translation.name name) = second.place (translation.name other) ↔
      first.place name = first.place other := by
  rw [place_inj (translated.name_mem_states.2 mem), translation.name_injective.eq_iff,
    place_inj mem]

/-- The rules of a translation are translated, and have the numbers of the rules. -/
theorem transitionsFrom_eq (consistent : first.Consistent) (id : Nat)
    {rules : List RuleDeclaration} (admitted : ∀ rule ∈ rules, first.Admits rule) :
    second.transitionsFrom id (rules.map translation.rule) =
      (first.transitionsFrom id rules).map
        (translation.transition (movedPlace translation first second)) := by
  induction rules generalizing id with
  | nil => rfl
  | cons rule rules ih =>
      obtain ⟨admits, others⟩ := List.forall_mem_cons.1 admitted
      rw [List.map_cons, transitionsFrom, transitionsFrom, List.map_cons, ih (id + 1) others]
      congr 1
      simp only [transition, Translation.transition, Translation.rule,
        movedPlace_place consistent admits.source_mem, movedPlace_place consistent admits.target_mem]

/-- A declared state becomes a state, and its translation the translation of that state. -/
theorem stateOf_eq (translated : first.Translated translation second) (consistent : first.Consistent)
    {name : String} (mem : name ∈ first.states) :
    second.stateOf (translation.name name) =
      translation.state (movedPlace translation first second) (first.stateOf name) := by
  obtain ⟨initial, initialMem, named⟩ := consistent.initial_mem
  have begins : (second.place (translation.name name) == second.initialPlace) =
      (first.place name == first.initialPlace) := by
    simp only [initialPlace, translated.initial_eq, named, Option.map_some, Option.getD_some,
      Bool.beq_eq_decide_eq, translated.place_eq_iff mem]
  have accepts : second.accepting.contains (translation.name name) =
      first.accepting.contains name := by
    rw [Bool.eq_iff_iff, List.contains_iff_mem, List.contains_iff_mem,
      translated.name_mem_accepting]
  have rules : second.transitions.filter (·.source == second.place (translation.name name)) =
      (first.transitions.filter (·.source == first.place name)).map
        (translation.transition (movedPlace translation first second)) := by
    -- Moved rules are picked by a moved place: no other place has moved there.
    rw [transitions, translated.rules_eq, transitionsFrom_eq consistent 1 consistent.rules_admitted,
      List.filter_map]
    congr 1
    apply List.filter_congr
    intro transition transitionMem
    obtain ⟨rule, ruleMem, number, rfl⟩ := exists_rule_of_mem transitionMem
    have sourceMem := (consistent.rules_admitted rule ruleMem).source_mem
    simp only [Function.comp_apply, Translation.transition, Declarations.transition,
      movedPlace_place consistent sourceMem, Bool.beq_eq_decide_eq,
      translated.place_eq_iff sourceMem]
  simp only [stateOf, assembleState, begins, accepts, rules, Translation.state]

/-- A translation makes the translated table. -/
theorem program_translated (translated : first.Translated translation second)
    (consistent : first.Consistent) :
    first.program.Translated translation (movedPlace translation first second) second.program where
  inputAlphabet_eq := translated.inputAlphabet_eq
  tapeAlphabet_eq := translated.tapeAlphabet_eq
  blank_eq := translated.blank_eq
  tapeCount_eq := translated.tapeCount_eq
  initial_eq := by
    obtain ⟨initial, initialMem, named⟩ := consistent.initial_mem
    have translatedName : second.initial = some (translation.name initial) :=
      translated.initial_eq_some_iff.2 named
    rw [program_initial translatedName, program_initial named,
      movedPlace_place consistent initialMem]
  stateAt_eq := by
    -- Every place is that of a declared name, and names are what a translation relates.
    intro place bound
    rw [length_program_states] at bound
    have nodup := (translated.consistent_iff.2 consistent).states_nodup
    have mem := List.getElem_mem bound
    have here : first.place first.states[place] = place :=
      consistent.states_nodup.idxOf_getElem place bound
    rw [← here, movedPlace_place consistent mem, stateAt_place consistent.states_nodup mem,
      stateAt_place nodup (translated.name_mem_states.2 mem)]
    exact translated.stateOf_eq consistent mem

end Translated

end Declarations

end Multitape
