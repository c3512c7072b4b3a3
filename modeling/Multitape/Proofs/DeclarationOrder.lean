/-
Module: Multitape.Proofs.DeclarationOrder
Purpose: In what order declarations are made. Those of one kind add up in their order, or the last of them
  counts, or they make a set; those of different kinds do not see each other. So a row of declarations is
  worth what is declared of each kind, and two rows that agree on that make the same program or fail for the
  same reason.
Main exports: Declaration.stateNames, Declaration.inputSymbols, lastDeclared?, accumulates_foldl,
  replaces_foldl, collects_foldl, foldl_add_rules, DeclaredAlike, ofList_eq_of_declaredAlike,
  build_eq_of_declaredAlike
-/
import Multitape.Proofs.Tabulation

namespace Multitape

/-! ### What one declaration declares of each kind -/

namespace Declaration

/-- The names of states that are declared. -/
def stateNames : Declaration → List String
  | .states names => names
  | _ => []

/-- The names of accepting states that are declared. -/
def acceptingNames : Declaration → List String
  | .accepting names => names
  | _ => []

/-- The rule that is declared, if it is one. -/
def rules : Declaration → List RuleDeclaration
  | .rule declared => [declared]
  | _ => []

/-- The symbols that are put into the input alphabet. -/
def inputSymbols : Declaration → List Char
  | .inputAlphabet symbols => symbols
  | _ => []

/-- The symbols that are put into the tape alphabet. -/
def tapeSymbols : Declaration → List Char
  | .tapeAlphabet symbols => symbols
  | _ => []

/-- The name that is given to the machine. -/
def name? : Declaration → Option String
  | .name given => some given
  | _ => none

/-- The symbol that is declared blank. -/
def blank? : Declaration → Option Char
  | .blank symbol => some symbol
  | _ => none

/-- The number of tapes that is declared. -/
def tapes? : Declaration → Option Nat
  | .tapes count => some count
  | _ => none

/-- The initial state that is declared. -/
def initial? : Declaration → Option String
  | .initial given => some given
  | _ => none

end Declaration

namespace Declarations

variable {α : Type} {first second : List Declaration}

/-! ### What a row of declarations declares of each kind -/

/-- What the last declaration of a kind declares, if there is one of the kind. -/
def lastDeclared? (declared? : Declaration → Option α) (list : List Declaration) : Option α :=
  (list.filterMap declared?).getLast?

theorem lastDeclared?_append (declared? : Declaration → Option α) (list more : List Declaration) :
    lastDeclared? declared? (list ++ more) =
      (lastDeclared? declared? more).or (lastDeclared? declared? list) := by
  unfold lastDeclared?
  rw [List.filterMap_append, List.getLast?_append]

theorem lastDeclared?_singleton (declared? : Declaration → Option α) (declaration : Declaration) :
    lastDeclared? declared? [declaration] = declared? declaration := by
  unfold lastDeclared?
  cases given : declared? declaration <;> simp [given]

/-- What each declaration adds at the end adds up in the order of declaration. -/
theorem accumulates_foldl (field : Declarations → List α) (added : Declaration → List α)
    (step : ∀ declarations declaration,
      field (add declarations declaration) = field declarations ++ added declaration)
    (list : List Declaration) (declarations : Declarations) :
    field (list.foldl add declarations) = field declarations ++ list.flatMap added := by
  induction list generalizing declarations with
  | nil => exact (List.append_nil _).symm
  | cons declaration list ih =>
      rw [List.foldl_cons, ih, step, List.flatMap_cons, List.append_assoc]

/-- Where each declaration replaces what was declared before, the last one counts. -/
theorem replaces_foldl (field : Declarations → α) (declared? : Declaration → Option α)
    (step : ∀ declarations declaration,
      field (add declarations declaration) = (declared? declaration).getD (field declarations))
    (list : List Declaration) (declarations : Declarations) :
    field (list.foldl add declarations) =
      (lastDeclared? declared? list).getD (field declarations) := by
  induction list generalizing declarations with
  | nil => rfl
  | cons declaration list ih =>
      rw [List.foldl_cons, ih, step, ← List.singleton_append, lastDeclared?_append,
        lastDeclared?_singleton, Option.getD_or]

/-- Of symbols that are put into an alphabet only their membership is left. -/
theorem collects_foldl (field : Declarations → Alphabet) (put : Declaration → List Char)
    (step : ∀ declarations declaration symbol,
      symbol ∈ field (add declarations declaration) ↔
        symbol ∈ field declarations ∨ symbol ∈ put declaration)
    (list : List Declaration) (declarations : Declarations) (symbol : Char) :
    symbol ∈ field (list.foldl add declarations) ↔
      symbol ∈ field declarations ∨ symbol ∈ list.flatMap put := by
  induction list generalizing declarations with
  | nil => simp
  | cons declaration list ih =>
      rw [List.foldl_cons, ih, step, List.flatMap_cons, List.mem_append, or_assoc]

/-- Rules that are declared one by one add up. -/
theorem foldl_add_rules (rules : List RuleDeclaration) (declarations : Declarations) :
    (rules.map Declaration.rule).foldl add declarations =
      { declarations with rules := declarations.rules ++ rules } := by
  induction rules generalizing declarations with
  | nil => simp
  | cons rule rules ih =>
      rw [List.map_cons, List.foldl_cons, ih]
      simp [add]

section Fields

variable (list : List Declaration)

theorem states_ofList : (ofList list).states = list.flatMap Declaration.stateNames :=
  accumulates_foldl states Declaration.stateNames
    (fun _ declaration => by cases declaration <;> simp [add, Declaration.stateNames]) list empty

theorem accepting_ofList : (ofList list).accepting = list.flatMap Declaration.acceptingNames :=
  accumulates_foldl accepting Declaration.acceptingNames
    (fun _ declaration => by cases declaration <;> simp [add, Declaration.acceptingNames]) list empty

theorem rules_ofList : (ofList list).rules = list.flatMap Declaration.rules :=
  accumulates_foldl rules Declaration.rules
    (fun _ declaration => by cases declaration <;> simp [add, Declaration.rules]) list empty

theorem name_ofList :
    (ofList list).name = (lastDeclared? Declaration.name? list).getD "untitled" :=
  replaces_foldl name Declaration.name? (fun _ declaration => by cases declaration <;> rfl) list empty

theorem blank_ofList :
    (ofList list).blank = (lastDeclared? Declaration.blank? list).getD defaultBlank :=
  replaces_foldl blank Declaration.blank? (fun _ declaration => by cases declaration <;> rfl) list empty

theorem tapeCount_ofList :
    (ofList list).tapeCount = (lastDeclared? Declaration.tapes? list).getD 1 :=
  replaces_foldl tapeCount Declaration.tapes? (fun _ declaration => by cases declaration <;> rfl) list
    empty

/-- There is no initial state before one is declared. -/
theorem initial_ofList : (ofList list).initial = lastDeclared? Declaration.initial? list := by
  -- What is replaced is an option itself, so each declaration gives it as a whole.
  have replaced : (ofList list).initial =
      (lastDeclared? (fun declaration => declaration.initial?.map some) list).getD none :=
    replaces_foldl initial (fun declaration => declaration.initial?.map some)
      (fun _ declaration => by cases declaration <;> rfl) list empty
  rw [replaced, lastDeclared?, lastDeclared?, ← List.map_filterMap, List.getLast?_map]
  cases (list.filterMap Declaration.initial?).getLast? <;> rfl

theorem mem_inputAlphabet_ofList (symbol : Char) :
    symbol ∈ (ofList list).inputAlphabet ↔ symbol ∈ list.flatMap Declaration.inputSymbols := by
  have collected := collects_foldl inputAlphabet Declaration.inputSymbols
    (fun _ declaration _ => by
      cases declaration <;> simp [add, Declaration.inputSymbols, or_comm]) list empty symbol
  exact collected.trans (or_iff_right Alphabet.not_mem_empty)

theorem mem_tapeAlphabet_ofList (symbol : Char) :
    symbol ∈ (ofList list).tapeAlphabet ↔ symbol ∈ list.flatMap Declaration.tapeSymbols := by
  have collected := collects_foldl tapeAlphabet Declaration.tapeSymbols
    (fun _ declaration _ => by
      cases declaration <;> simp [add, Declaration.tapeSymbols, or_comm]) list empty symbol
  exact collected.trans (or_iff_right Alphabet.not_mem_empty)

end Fields

/-! ### Rows that declare alike -/

/-- Two rows of declarations declare the same of each kind: the same names of states, accepting names and
    rules in the same order, the same last name, blank, number of tapes and initial state or none, and the
    same sets of symbols. How the kinds are interleaved and grouped may differ. -/
structure DeclaredAlike (first second : List Declaration) : Prop where
  states_eq : first.flatMap Declaration.stateNames = second.flatMap Declaration.stateNames
  accepting_eq : first.flatMap Declaration.acceptingNames = second.flatMap Declaration.acceptingNames
  rules_eq : first.flatMap Declaration.rules = second.flatMap Declaration.rules
  name_eq : lastDeclared? Declaration.name? first = lastDeclared? Declaration.name? second
  blank_eq : lastDeclared? Declaration.blank? first = lastDeclared? Declaration.blank? second
  tapes_eq : lastDeclared? Declaration.tapes? first = lastDeclared? Declaration.tapes? second
  initial_eq : lastDeclared? Declaration.initial? first = lastDeclared? Declaration.initial? second
  inputSymbols_iff : ∀ symbol, symbol ∈ first.flatMap Declaration.inputSymbols ↔
    symbol ∈ second.flatMap Declaration.inputSymbols
  tapeSymbols_iff : ∀ symbol, symbol ∈ first.flatMap Declaration.tapeSymbols ↔
    symbol ∈ second.flatMap Declaration.tapeSymbols

theorem DeclaredAlike.refl (list : List Declaration) : DeclaredAlike list list where
  states_eq := rfl
  accepting_eq := rfl
  rules_eq := rfl
  name_eq := rfl
  blank_eq := rfl
  tapes_eq := rfl
  initial_eq := rfl
  inputSymbols_iff := fun _ => Iff.rfl
  tapeSymbols_iff := fun _ => Iff.rfl

/-- Rows that declare alike still do if the same is declared after both. -/
theorem DeclaredAlike.append (alike : DeclaredAlike first second) (more : List Declaration) :
    DeclaredAlike (first ++ more) (second ++ more) where
  states_eq := by rw [List.flatMap_append, List.flatMap_append, alike.states_eq]
  accepting_eq := by rw [List.flatMap_append, List.flatMap_append, alike.accepting_eq]
  rules_eq := by rw [List.flatMap_append, List.flatMap_append, alike.rules_eq]
  name_eq := by rw [lastDeclared?_append, lastDeclared?_append, alike.name_eq]
  blank_eq := by rw [lastDeclared?_append, lastDeclared?_append, alike.blank_eq]
  tapes_eq := by rw [lastDeclared?_append, lastDeclared?_append, alike.tapes_eq]
  initial_eq := by rw [lastDeclared?_append, lastDeclared?_append, alike.initial_eq]
  inputSymbols_iff := fun symbol => by
    rw [List.flatMap_append, List.flatMap_append, List.mem_append, List.mem_append,
      alike.inputSymbols_iff]
  tapeSymbols_iff := fun symbol => by
    rw [List.flatMap_append, List.flatMap_append, List.mem_append, List.mem_append,
      alike.tapeSymbols_iff]

/-- Rows that declare alike leave the same declared. -/
theorem ofList_eq_of_declaredAlike (alike : DeclaredAlike first second) :
    ofList first = ofList second := by
  have input : (ofList first).inputAlphabet = (ofList second).inputAlphabet :=
    Alphabet.eq_of_mem_iff fun symbol =>
      (mem_inputAlphabet_ofList first symbol).trans
        ((alike.inputSymbols_iff symbol).trans (mem_inputAlphabet_ofList second symbol).symm)
  have tape : (ofList first).tapeAlphabet = (ofList second).tapeAlphabet :=
    Alphabet.eq_of_mem_iff fun symbol =>
      (mem_tapeAlphabet_ofList first symbol).trans
        ((alike.tapeSymbols_iff symbol).trans (mem_tapeAlphabet_ofList second symbol).symm)
  -- Field by field, each is what was declared of one kind.
  have ext : ∀ declarations : Declarations, declarations =
      ⟨declarations.name, declarations.states, declarations.inputAlphabet, declarations.tapeAlphabet,
        declarations.blank, declarations.tapeCount, declarations.initial, declarations.accepting,
        declarations.rules⟩ := fun _ => rfl
  rw [ext (ofList first), ext (ofList second), input, tape, name_ofList, name_ofList, alike.name_eq,
    states_ofList, states_ofList, alike.states_eq, blank_ofList, blank_ofList, alike.blank_eq,
    tapeCount_ofList, tapeCount_ofList, alike.tapes_eq, initial_ofList, initial_ofList,
    alike.initial_eq, accepting_ofList, accepting_ofList, alike.accepting_eq, rules_ofList,
    rules_ofList, alike.rules_eq]

/-- Declarations commute. Rows that declare the same of each kind, however the kinds are interleaved and the
    declarations of a kind are grouped, make the same program, or fail for the same reason and so with the
    same message. -/
theorem build_eq_of_declaredAlike (alike : DeclaredAlike first second) :
    (ofList first).build = (ofList second).build := by
  rw [ofList_eq_of_declaredAlike alike]

/-- The declarations of the two states that take turns, kind by kind, and otherwise grouped. -/
def turnsByKind : List Declaration :=
  [ .states ["tick"],
    .states ["tock", "stop"],
    .initial "stop",
    .initial "tick",
    .accepting ["stop", "stop"],
    .tapeAlphabet ['_', '1', '0', '1'],
    .rule ⟨"tock", ['0'], "tick", ['1'], [.left]⟩,
    .rule ⟨"tick", ['.'], "tock", ['0'], [.right]⟩,
    .rule ⟨"tock", ['1'], "stop", ['_'], [.stay]⟩,
    .rule ⟨"tick", ['_'], "tick", ['_'], [.right]⟩ ]

theorem declaredAlike_turns : DeclaredAlike turns turnsByKind where
  states_eq := rfl
  accepting_eq := rfl
  rules_eq := rfl
  name_eq := rfl
  blank_eq := rfl
  tapes_eq := rfl
  initial_eq := rfl
  inputSymbols_iff := fun _ => Iff.rfl
  tapeSymbols_iff := fun symbol => by
    have same : Alphabet.ofList (turns.flatMap Declaration.tapeSymbols) =
        Alphabet.ofList (turnsByKind.flatMap Declaration.tapeSymbols) := rfl
    rw [← Alphabet.mem_ofList, same, Alphabet.mem_ofList]

/-- A rule that reads a symbol that is no tape symbol. -/
def readsForeign : Declaration := .rule ⟨"tick", ['x'], "tick", ['_'], [.right]⟩

/-- Both rows make the same table, and with one more rule fail on the same symbol. -/
theorem build_eq_of_turns :
    turns ≠ turnsByKind ∧ DeclaredAlike turns turnsByKind ∧
      (ofList turnsByKind).build = .ok turnsTable ∧
      (ofList (turnsByKind ++ [readsForeign])).build =
        .error (.foreignRead 'x' "tick" (Alphabet.ofList ['0', '1', '_'])) := by
  have builds : (ofList turns).build = .ok turnsTable := rfl
  have fails : (ofList (turns ++ [readsForeign])).build =
      .error (.foreignRead 'x' "tick" (Alphabet.ofList ['0', '1', '_'])) := rfl
  refine ⟨by decide, declaredAlike_turns, ?_, ?_⟩
  · rw [← build_eq_of_declaredAlike declaredAlike_turns, builds]
  · rw [← build_eq_of_declaredAlike (declaredAlike_turns.append [readsForeign]), fails]

end Declarations

end Multitape
