/-
Module: Multitape.Catalog
Purpose: The machines that come with the library.
Main exports: Catalog.Entry, Catalog.entries, Catalog.programs, Catalog.programAt, Catalog.programNamed,
  Catalog.source?, Catalog.names, Catalog.Info, Catalog.info
-/
import Multitape.Description

namespace Multitape.Catalog

/-- A description under its name. -/
structure Entry where
  name : String
  text : String

/-- Lines as one text, each with its end. -/
def textOfLines (lines : List String) : String := String.join (lines.map (· ++ "\n"))

/-- Looks at one symbol only. -/
def firstZero : Entry where
  name := "first-zero"
  text := textOfLines
    [ "# Accepts any string whose first symbol is 0.",
      "q0 q1",
      "0 1",
      "0 1 _",
      "q0",
      "_",
      "q1",
      "1",
      "q0 0 q1 0 R" ]

/-- Keeps the parity of the ones it has passed. -/
def evenOnes : Entry where
  name := "even-ones"
  text := textOfLines
    [ "# Accepts binary strings containing an even number of 1s.",
      "even odd accept",
      "0 1",
      "0 1 _",
      "even",
      "_",
      "accept",
      "even 0 even 0 R",
      "even 1 odd 1 R",
      "even _ accept _ S",
      "odd 0 odd 0 R",
      "odd 1 even 1 R" ]

/-- Crosses off one `a` and one `b` in each round. -/
def anbn : Entry where
  name := "anbn"
  text := textOfLines
    [ "# Accepts a^n b^n (n >= 0) by crossing off matching pairs.",
      "q0 q1 q2 q3 q4",
      "a b",
      "a b X Y _",
      "q0",
      "_",
      "q4",
      "1",
      "# mark an a, or check that only marked b's remain",
      "q0 a q1 X R",
      "q0 Y q3 Y R",
      "q0 _ q4 _ S",
      "# find the first unmarked b",
      "q1 a q1 a R",
      "q1 Y q1 Y R",
      "q1 b q2 Y L",
      "# walk back to the last marked a",
      "q2 a q2 a L",
      "q2 Y q2 Y L",
      "q2 X q0 X R",
      "# only marked b's may follow",
      "q3 Y q3 Y R",
      "q3 _ q4 _ S" ]

/-- Counts zeros on a second tape and ones back from it. -/
def zerosOnes : Entry where
  name := "zeros-ones"
  text := textOfLines
    [ "# Accepts 0^n 1^n (n >= 0) using a second tape as a counter.",
      "start copy match accept",
      "0 1",
      "0 1 X _",
      "start",
      "_",
      "accept",
      "2",
      "start _ _ accept _ _ S S",
      "start 0 _ copy 0 X R R",
      "# count the 0s on tape 2",
      "copy 0 _ copy 0 X R R",
      "copy 1 _ match 1 _ S L",
      "# cancel one mark per 1",
      "match 1 X match 1 X R L",
      "match _ _ accept _ _ S S" ]

/-- The bundled descriptions. -/
def entries : List Entry := [firstZero, evenOnes, anbn, zerosOnes]

/-- The program of a bundled description, under the name it is bundled with. -/
def Entry.program? (entry : Entry) : Option Program :=
  match Description.parse entry.text with
  | .ok program => some (program.withName entry.name)
  | .error _ => none

/-- The bundled programs. -/
def programs : List Program := entries.filterMap Entry.program?

/-- The bundled program at a place. -/
def programAt (place : Nat) : Except Error Program :=
  match programs[place]? with
  | some program => .ok program
  | none => .error (.noProgramAt place)

/-- The bundled program of a name. -/
def programNamed (name : String) : Except Error Program :=
  match programs.find? (·.name == name) with
  | some program => .ok program
  | none => .error (.noProgramNamed name)

/-- The description from which a bundled program is read. -/
def source? (name : String) : Option String := (entries.find? (·.name == name)).map (·.text)

/-- The names of the bundled programs. -/
def names : List String := programs.map (·.name)

/-- A bundled program in numbers. -/
structure Info where
  index : Nat
  name : String
  initialState : String
  tapeCount : Nat
  stateCount : Nat
  transitionCount : Nat
deriving DecidableEq

/-- The numbers of a program at a place. -/
def Info.ofProgram (place : Nat) (program : Program) : Info where
  index := place
  name := program.name
  initialState := (program.stateAt program.initial).name
  tapeCount := program.tapeCount
  stateCount := program.states.length
  transitionCount := program.transitionCount

/-- The numbers of the bundled program at a place. -/
def info (place : Nat) : Except Error Info := (programAt place).map (Info.ofProgram place)

end Multitape.Catalog
