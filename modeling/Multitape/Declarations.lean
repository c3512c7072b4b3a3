/-
Module: Multitape.Declarations
Purpose: What is declared about a machine, and the program that consistent declarations make.
Main exports: RuleDeclaration, Declaration, Declarations, Declarations.add, Declarations.ofList,
  Declarations.build
-/
import Multitape.Error
import Multitape.Program

namespace Multitape

/-- A rule as it is declared, with its states named. -/
structure RuleDeclaration where
  source : String
  read : List Char
  target : String
  write : List Char
  directions : List Direction
deriving DecidableEq, Inhabited

/-- One declaration. Names of states, symbols, accepting states and rules accumulate over declarations; of
    the others the last one counts. -/
inductive Declaration where
  | name (name : String)
  | states (names : List String)
  | inputAlphabet (symbols : List Char)
  | tapeAlphabet (symbols : List Char)
  | blank (symbol : Char)
  | tapes (count : Nat)
  | initial (name : String)
  | accepting (names : List String)
  | rule (rule : RuleDeclaration)
deriving DecidableEq

/-- All that is declared about a machine. Nothing is checked until it is built, so declarations may come
    in any order. -/
structure Declarations where
  name : String := "untitled"
  states : List String := []
  inputAlphabet : Alphabet := Alphabet.empty
  tapeAlphabet : Alphabet := Alphabet.empty
  blank : Char := defaultBlank
  tapeCount : Nat := 1
  initial : Option String := none
  accepting : List String := []
  rules : List RuleDeclaration := []
deriving DecidableEq

namespace Declarations

/-- Nothing is declared: an untitled machine with one tape and the default blank. -/
def empty : Declarations := {}

instance : Inhabited Declarations := ⟨empty⟩

/-- Make one more declaration. -/
def add (declarations : Declarations) : Declaration → Declarations
  | .name name => { declarations with name := name }
  | .states names => { declarations with states := declarations.states ++ names }
  | .inputAlphabet symbols =>
      { declarations with inputAlphabet := declarations.inputAlphabet.extend symbols }
  | .tapeAlphabet symbols =>
      { declarations with tapeAlphabet := declarations.tapeAlphabet.extend symbols }
  | .blank symbol => { declarations with blank := symbol }
  | .tapes count => { declarations with tapeCount := count }
  | .initial name => { declarations with initial := some name }
  | .accepting names => { declarations with accepting := declarations.accepting ++ names }
  | .rule rule => { declarations with rules := declarations.rules ++ [rule] }

/-- Declarations made one after the other. -/
def ofList (list : List Declaration) : Declarations := list.foldl add empty

/-! ### Checks -/

/-- The first name that occurs for a second time. -/
def firstRepeated? : List String → List String → Option String
  | _, [] => none
  | seen, name :: names => if name ∈ seen then some name else firstRepeated? (name :: seen) names

/-- The place of a declared state. -/
def findState (declarations : Declarations) (name : String) : Except Inconsistency Nat :=
  match declarations.states.idxOf? name with
  | some place => .ok place
  | none => .error (.unknownState name)

/-- Check what is declared besides rules and special states: there are tapes and states, no name is
    declared twice, the wildcard is no tape symbol and the blank is one. -/
def checkBasics (declarations : Declarations) : Except Inconsistency Unit :=
  if declarations.tapeCount = 0 then .error .noTapes
  else if declarations.states = [] then .error .noStates
  else match firstRepeated? [] declarations.states with
    | some name => .error (.duplicateState name)
    | none =>
      if declarations.tapeAlphabet.contains wildcard then .error .wildcardInTapeAlphabet
      else if declarations.tapeAlphabet.contains declarations.blank then .ok ()
      else .error (.foreignBlank declarations.blank declarations.tapeAlphabet)

/-- The place of the initial state. -/
def findInitial (declarations : Declarations) : Except Inconsistency Nat :=
  match declarations.initial with
  | none => .error .noInitialState
  | some name => declarations.findState name

/-- Check that accepting states are declared and that none is the initial one. -/
def checkAccepting (declarations : Declarations) (initial : Nat) :
    List String → Except Inconsistency Unit
  | [] => .ok ()
  | name :: names =>
      match declarations.findState name with
      | .error cause => .error cause
      | .ok place =>
          if place = initial then .error (.acceptingInitialState name)
          else declarations.checkAccepting initial names

/-- Check the entries of a rule: one read, one write and one direction for each tape, every read a tape
    symbol or the wildcard, every write a tape symbol. -/
def checkEntries (declarations : Declarations) (rule : RuleDeclaration) :
    Except Inconsistency Unit :=
  let alphabet := declarations.tapeAlphabet
  let tapes := declarations.tapeCount
  if rule.read.length = tapes ∧ rule.write.length = tapes ∧ rule.directions.length = tapes then
    match rule.read.find? (fun symbol => symbol != wildcard && !alphabet.contains symbol) with
    | some symbol => .error (.foreignRead symbol rule.source alphabet)
    | none =>
      if rule.write.contains wildcard then .error (.wildcardWritten rule.source)
      else match rule.write.find? (!alphabet.contains ·) with
        | some symbol => .error (.foreignWrite symbol rule.source alphabet)
        | none => .ok ()
  else
    .error (.entryCount rule.source tapes rule.read.length rule.write.length rule.directions.length)

/-- The rule with its states found and its number given. An accepting state is the end of a run, so it
    has no rules. -/
def resolveRule (declarations : Declarations) (id : Nat) (rule : RuleDeclaration) :
    Except Inconsistency Transition :=
  match declarations.findState rule.source with
  | .error cause => .error cause
  | .ok source =>
    match declarations.findState rule.target with
    | .error cause => .error cause
    | .ok target =>
      if rule.source ∈ declarations.accepting then .error (.acceptingSource rule.source)
      else match declarations.checkEntries rule with
        | .error cause => .error cause
        | .ok () =>
            .ok { id := id, source := source, target := target, read := rule.read,
                  write := rule.write, directions := rule.directions }

/-- The rules in the order of their declaration, numbered from `id` on. -/
def resolveRules (declarations : Declarations) : Nat → List RuleDeclaration →
    Except Inconsistency (List Transition)
  | _, [] => .ok []
  | id, rule :: rules =>
      match declarations.resolveRule id rule with
      | .error cause => .error cause
      | .ok transition => (declarations.resolveRules (id + 1) rules).map (transition :: ·)

/-! ### Assembly -/

/-- The state of a name at a place, with the rules that start there. -/
def assembleState (declarations : Declarations) (initial : Nat) (transitions : List Transition)
    (name : String) (place : Nat) : State where
  name := name
  initial := place == initial
  accepting := declarations.accepting.contains name
  transitions := transitions.filter (·.source == place)

/-- The program of checked declarations. -/
def assemble (declarations : Declarations) (initial : Nat) (transitions : List Transition) :
    Program where
  name := declarations.name
  states := declarations.states.mapIdx fun place name =>
    declarations.assembleState initial transitions name place
  inputAlphabet := declarations.inputAlphabet
  tapeAlphabet := declarations.tapeAlphabet
  blank := declarations.blank
  tapeCount := declarations.tapeCount
  initial := initial

/-- The program that is declared, or the first reason why there is none. -/
def build (declarations : Declarations) : Except Inconsistency Program := do
  declarations.checkBasics
  let initial ← declarations.findInitial
  declarations.checkAccepting initial declarations.accepting
  let transitions ← declarations.resolveRules 1 declarations.rules
  return declarations.assemble initial transitions

end Declarations

end Multitape
