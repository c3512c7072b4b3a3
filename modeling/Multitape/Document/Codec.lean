/-
Module: Multitape.Document.Codec
Purpose: Values of the library as documents, and back.
Main exports: toDocument and ofDocument? of Direction, Alphabet, Transition, State and Rejection;
  toDocument of Program, Summary and TraceRow; Document.place and Document.place?
-/
import Multitape.Document
import Multitape.Text.Basic
import Multitape.Trace

namespace Multitape

/-!
A structure is a record of its fields.  It is read from a record that has every field, whatever else the
record has, or from a list of the fields in their order.  A value with several forms is the name of its form,
or a record of one field with that name that holds what belongs to the form.  If several named things belong
to a form, they are a record: a list of them would not say what they are.  Nothing is converted: a number
is no flag, a missing value is no text, and a symbol is a text of exactly one character.
-/

namespace Document

/-- The value of a field. -/
def field? (name : String) : List (String × Document) → Option Document
  | [] => none
  | (other, value) :: fields => if other = name then some value else field? name fields

/-- The values of named fields of a record, in the order of the names. -/
def fields? (names : List String) : Document → Option (List Document)
  | record fields => names.mapM (field? · fields)
  | _ => none

/-- The values of the fields of a structure, from a record of them or from a list. -/
def components? (names : List String) : Document → Option (List Document)
  | list items => if items.length = names.length then some items else none
  | document => document.fields? names

/-- The items of a list, all read in the same way. -/
def items? {α : Type} (decode : Document → Option α) : Document → Option (List α)
  | list items => items.mapM decode
  | _ => none

/-- A natural number of 64 bits. -/
def natural? : Document → Option Nat
  | number digits 0 => if 0 ≤ digits ∧ digits.toNat < Text.wordBound then some digits.toNat else none
  | _ => none

/-- A text. -/
def text? : Document → Option String
  | text value => some value
  | _ => none

/-- A flag. -/
def flag? : Document → Option Bool
  | flag value => some value
  | _ => none

/-- A symbol. -/
def symbol? : Document → Option Char
  | text value =>
      match value.toList with
      | [c] => some c
      | _ => none
  | _ => none

/-- The place of a state is a bare number. -/
def place (place : Nat) : Document := natural place

/-- The place of a state. -/
def place? (document : Document) : Option Nat := document.natural?

end Document

open Document

/-! ### Directions and alphabets -/

/-- The name of a direction. -/
def Direction.name : Direction → String
  | left => "Left"
  | right => "Right"
  | stay => "Stay"

/-- The direction of a name. -/
def Direction.ofName? (name : String) : Option Direction :=
  [Direction.left, Direction.right, Direction.stay].find? (·.name == name)

/-- A direction is its name. -/
def Direction.toDocument (direction : Direction) : Document := text direction.name

/-- Read a direction. -/
def Direction.ofDocument? : Document → Option Direction
  | text name => ofName? name
  | record [(name, null)] => ofName? name
  | _ => none

/-- An alphabet is a record of its symbols. -/
def Alphabet.toDocument (alphabet : Alphabet) : Document :=
  record [("symbols", Document.symbols alphabet.toList)]

/-- Read an alphabet. Its symbols may come in any order and more than once. -/
def Alphabet.ofDocument? (document : Document) : Option Alphabet :=
  match document.components? ["symbols"] with
  | some [symbols] => (symbols.items? symbol?).map Alphabet.ofList
  | _ => none

/-! ### Rules, states and programs -/

/-- A rule is a record of its fields. -/
def Transition.toDocument (transition : Transition) : Document :=
  record
    [ ("id", natural transition.id), ("source", place transition.source),
      ("target", place transition.target), ("read", Document.symbols transition.read),
      ("write", Document.symbols transition.write),
      ("directions", list (transition.directions.map Direction.toDocument)) ]

/-- Read a rule. -/
def Transition.ofDocument? (document : Document) : Option Transition := do
  let [id, source, target, read, write, directions] ←
    document.components? ["id", "source", "target", "read", "write", "directions"] | none
  return { id := ← id.natural?, source := ← source.place?, target := ← target.place?,
           read := ← read.items? symbol?, write := ← write.items? symbol?,
           directions := ← directions.items? Direction.ofDocument? }

/-- A state is a record of its fields. -/
def State.toDocument (state : State) : Document :=
  record
    [ ("name", text state.name), ("initial", flag state.initial), ("accepting", flag state.accepting),
      ("transitions", list (state.transitions.map Transition.toDocument)) ]

/-- Read a state. -/
def State.ofDocument? (document : Document) : Option State := do
  let [name, initial, accepting, transitions] ←
    document.components? ["name", "initial", "accepting", "transitions"] | none
  return { name := ← name.text?, initial := ← initial.flag?, accepting := ← accepting.flag?,
           transitions := ← transitions.items? Transition.ofDocument? }

/-- A program is a record of its fields. -/
def Program.toDocument (program : Program) : Document :=
  record
    [ ("name", text program.name), ("states", list (program.states.map State.toDocument)),
      ("input_alphabet", program.inputAlphabet.toDocument),
      ("tape_alphabet", program.tapeAlphabet.toDocument), ("blank", symbol program.blank),
      ("tape_count", natural program.tapeCount), ("initial", place program.initial) ]

/-! ### What is told about a machine -/

/-- A rejection is the name of its form with what belongs to it. -/
def Rejection.toDocument : Rejection → Document
  | foreignInput c => record [("InvalidInputSymbol", symbol c)]
  | stuck state symbols =>
      record
        [ ("NoApplicableTransition",
            record [("state", text state), ("symbols", Document.symbols symbols)]) ]

/-- Read a rejection. -/
def Rejection.ofDocument? : Document → Option Rejection
  | record [("InvalidInputSymbol", value)] => value.symbol?.map foreignInput
  | record [("NoApplicableTransition", value)] => do
      let [state, symbols] ← value.fields? ["state", "symbols"] | none
      return stuck (← state.text?) (← symbols.items? symbol?)
  | _ => none

/-- A rule with its states named is a record of its fields. -/
def RuleLine.toDocument (line : RuleLine) : Document :=
  record
    [ ("id", natural line.id), ("from", text line.source), ("read", Document.symbols line.read),
      ("to", text line.target), ("write", Document.symbols line.write),
      ("directions", list (line.directions.map Direction.toDocument)) ]

/-- The rules of a state are a record. -/
def StateRules.toDocument (rules : StateRules) : Document :=
  record
    [ ("state", text rules.state), ("transitions", list (rules.rules.map RuleLine.toDocument)) ]

/-- A summary is a record of its fields. -/
def Summary.toDocument (summary : Summary) : Document :=
  record
    [ ("name", text summary.name), ("states", texts summary.states),
      ("input_alphabet", Document.symbols summary.inputAlphabet),
      ("tape_alphabet", Document.symbols summary.tapeAlphabet), ("blank", symbol summary.blank),
      ("tape_count", natural summary.tapeCount), ("initial", text summary.initial),
      ("current", text summary.current), ("accepting", texts summary.accepting),
      ("transitions", list (summary.rules.map StateRules.toDocument)) ]

/-- A line of a trace is a record of its fields. -/
def TraceRow.toDocument (row : TraceRow) : Document :=
  record
    [ ("step", natural row.step), ("state", text row.state), ("tapes", texts row.tapes),
      ("transition", option natural row.transition) ]

end Multitape
