/-
Module: Multitape.CommandLine
Purpose: The command line: from arguments, files and standard input to what is printed.
Main exports: Transcript, Output, typedInputs, runInputs, runProgram, runDirectory, respond
-/
import Multitape.Analysis
import Multitape.Catalog
import Multitape.CommandLine.Arguments
import Multitape.CommandLine.Evaluation
import Multitape.Document.Codec
import Multitape.Library
import Multitape.Text.Basic

namespace Multitape.CommandLine

/-! ### What is printed -/

/-- Lines for the two output streams. -/
structure Transcript where
  out : String := ""
  err : String := ""
deriving DecidableEq

namespace Transcript

/-- One transcript after another. -/
def append (first second : Transcript) : Transcript :=
  ⟨first.out ++ second.out, first.err ++ second.err⟩

instance : Append Transcript := ⟨append⟩

/-- Lines on standard output. -/
def ofLines (lines : List String) : Transcript := ⟨String.join (lines.map (· ++ "\n")), ""⟩

/-- Lines on standard error. -/
def ofNotices (lines : List String) : Transcript := ⟨"", String.join (lines.map (· ++ "\n"))⟩

/-- The line that tells an error. -/
def ofError (error : Error) : Transcript := ofNotices ["Error: " ++ error.message]

end Transcript

/-- What a run of the command line leaves: its exit code and what it has printed. -/
structure Output where
  exit : Nat
  transcript : Transcript
deriving DecidableEq

/-! ### Standard input -/

/-- The lines of a text. A line feed ends a line, and an empty last line is none. -/
def textLines (text : List Char) : List (List Char) :=
  match text with
  | [] => []
  | c :: rest =>
      if c = '\n' then [] :: textLines rest
      else match textLines rest with
        | [] => [[c]]
        | line :: lines => (c :: line) :: lines

/-- The line after which no more inputs are read. -/
def endOfInputs : List Char := ['0']

/-- The inputs on standard input: its lines without white space at their ends, up to one that is a zero. -/
def typedInputs (text : String) : List String :=
  (((textLines text.toList).map Text.trim).takeWhile (· != endOfInputs)).map String.ofList

/-! ### Machines and inputs -/

/-- The description of a machine as it is asked for. -/
def description (json : Bool) (machine : Machine) : String :=
  if json then machine.summary.toDocument.pretty ++ "\n" else machine.summary.render

/-- Evaluate inputs one after the other, with a reset after each. An input that cannot be loaded ends
    that; its error is told by the caller. -/
def runInputs (fuel : Nat) (options : Options) :
    Machine → List String → Option (Transcript × Option Error)
  | _, [] => some ({}, none)
  | machine, input :: inputs => do
      let evaluation ← evaluate options.trace fuel options.maxSteps machine input.toList
      let printed := Transcript.ofLines (evaluation.lines input)
      match evaluation.result with
      | .error error => return (printed, some error)
      | .ok _ =>
          let (others, error) ← runInputs fuel options evaluation.final.reset inputs
          return (printed ++ others, error)

/-- Warn about a program, describe it, and evaluate inputs on it. -/
def runProgram (fuel : Nat) (options : Options) (inputs : List String) (program : Program) :
    Option (Transcript × Option Error) := do
  let warnings := Transcript.ofNotices (program.warnings.map ("Warning: " ++ ·.message))
  let machine := Machine.ofProgram program
  let described : Transcript := ⟨description options.json machine, ""⟩
  let (printed, error) ← runInputs fuel options machine inputs
  return (warnings ++ described ++ printed, error)

/-- Tell an error, if there is one. -/
def tellError : Option Error → Transcript
  | none => {}
  | some error => Transcript.ofError error

/-- Run what came of one description in a directory, under a line with its path. Tells whether all went
    well. -/
def runLoaded (fuel : Nat) (options : Options) (inputs : List String) :
    Except Error Library.Loaded → Option (Transcript × Bool)
  | .error error => some (Transcript.ofError error, false)
  | .ok loaded => do
      let (printed, error) ← runProgram fuel options inputs loaded.program
      let title := Transcript.ofLines ["==> " ++ loaded.path ++ " <=="]
      return (title ++ printed ++ tellError error, error.isNone)

/-- Run the same inputs on every description in a directory. What goes wrong with one of them does not
    concern the others. -/
def runDirectory (fuel : Nat) (options : Options) (inputs : List String) :
    List (Except Error Library.Loaded) → Option (Transcript × Bool)
  | [] => some ({}, true)
  | result :: results => do
      let (first, firstWell) ← runLoaded fuel options inputs result
      let (others, othersWell) ← runDirectory fuel options inputs results
      return (first ++ others, firstWell && othersWell)

/-! ### Requests -/

/-- One line for each bundled machine. -/
def catalogLines : List String :=
  Catalog.programs.mapIdx fun place program =>
    let info := Catalog.Info.ofProgram place program
    Text.column 12 info.name ++ " " ++ toString info.tapeCount ++ " tape(s), " ++
      toString info.stateCount ++ " states, " ++ toString info.transitionCount ++ " transitions"

/-- The exit code of a run that went well, or did not. -/
def exitCode (well : Bool) : Nat := if well then 0 else 1

/-- The program that is named: the description that the path leads to, or else the bundled one. -/
def findProgram (source : String) : Except ReadFault FileTree → Except Error Program
  | .error _ | .ok (.dangling _) => Catalog.programNamed source
  | .ok tree => Library.loadFile source (.ok tree)

/-- What is told with the error if no program is found: the bundled ones, if the path leads nowhere. -/
def hint : Except ReadFault FileTree → Transcript
  | .error _ | .ok (.dangling _) =>
      Transcript.ofNotices ["Bundled machines: " ++ ", ".intercalate Catalog.names]
  | .ok _ => {}

/-- Run what the options ask for. Only what the path of the program leads to is looked at. -/
def runOptions (fuel : Nat) (options : Options) (lookup : String → Except ReadFault FileTree)
    (stdin : String) : Option Output :=
  if options.list then some ⟨0, Transcript.ofLines catalogLines⟩
  else match options.program with
    | none =>
        some ⟨2, Transcript.ofNotices
          ["Error: a machine description or bundled machine name is required"]⟩
    | some source =>
        let inputs := if options.inputs.isEmpty then typedInputs stdin else options.inputs
        let found := lookup source
        if FileTree.leadsToDirectory found then do
          let (printed, well) ← runDirectory fuel options inputs (Library.loadDirectory source found)
          return ⟨exitCode well, printed⟩
        else match findProgram source found with
          | .error error => some ⟨1, Transcript.ofError error ++ hint found⟩
          | .ok program => do
              let (printed, error) ← runProgram fuel options inputs program
              return ⟨exitCode error.isNone, printed ++ tellError error⟩

/-- The name and the number of this version. -/
def versionLine : String := "dtm-cli 0.0.1"

/-- A short account of the arguments. -/
def usageLines : List String :=
  [ "Usage: dtm-cli [OPTIONS] [PROGRAM]",
    "",
    "  -i, --input <INPUT>          an input, any number of times; without any, standard input is read",
    "  -t, --trace                  show every configuration",
    "      --json                   describe the machine as JSON",
    "  -m, --max-steps <MAX_STEPS>  give up on an input after this many transitions",
    "  -l, --list                   list the bundled machines",
    "  -h, --help                   show this account",
    "  -V, --version                show the version" ]

/-- The answer to a row of arguments. There is one if every machine halts, or has taken as many rules as
    it may, within `fuel` steps on every input. -/
def respond (fuel : Nat) (arguments : List String) (lookup : String → Except ReadFault FileTree)
    (stdin : String) : Option Output :=
  match Request.ofArguments arguments with
  | .refused => some ⟨2, Transcript.ofNotices usageLines⟩
  | .help => some ⟨0, Transcript.ofLines usageLines⟩
  | .version => some ⟨0, Transcript.ofLines [versionLine]⟩
  | .run options => runOptions fuel options lookup stdin

end Multitape.CommandLine
