/-
Module: Multitape.CommandLine.Arguments
Purpose: What a row of command line arguments asks for.
Main exports: Options, Request, Request.ofArguments
-/
import Multitape.Text.Basic

namespace Multitape.CommandLine

/-- What is asked about which machine. -/
structure Options where
  program : Option String := none
  inputs : List String := []
  trace : Bool := false
  json : Bool := false
  maxSteps : Option Nat := none
  list : Bool := false
deriving DecidableEq

/-- What arguments ask for. Help and the version are given as soon as they are asked for, whatever follows;
    arguments that cannot be understood are refused. -/
inductive Request where
  | run (options : Options)
  | help
  | version
  | refused
deriving DecidableEq

/-- The options that stand alone. -/
inductive Switch where
  | trace
  | json
  | list
  | help
  | version
deriving DecidableEq

/-- The options that take a value. -/
inductive Setting where
  | input
  | maxSteps
deriving DecidableEq

/-- An option. -/
inductive Flag where
  | switch (switch : Switch)
  | setting (setting : Setting)
deriving DecidableEq

/-- The option of a letter. -/
def Flag.ofLetter? : Char → Option Flag
  | 'i' => some (.setting .input)
  | 'm' => some (.setting .maxSteps)
  | 't' => some (.switch .trace)
  | 'l' => some (.switch .list)
  | 'h' => some (.switch .help)
  | 'V' => some (.switch .version)
  | _ => none

/-- The option of a word. Words are not abbreviated. -/
def Flag.ofWord? (word : List Char) : Option Flag :=
  match String.ofList word with
  | "input" => some (.setting .input)
  | "max-steps" => some (.setting .maxSteps)
  | "trace" => some (.switch .trace)
  | "json" => some (.switch .json)
  | "list" => some (.switch .list)
  | "help" => some (.switch .help)
  | "version" => some (.switch .version)
  | _ => none

/-- A natural number of 64 bits in decimal digits, with a plus sign or without. -/
def count? (text : List Char) : Option Nat :=
  let digits := match text with
    | '+' :: rest => rest
    | _ => text
  if !digits.isEmpty && digits.all Char.isDigit &&
      decide (Text.numeral digits < Text.wordBound) then
    some (Text.numeral digits)
  else none

/-- Either the options so far, or an end of reading. -/
abbrev Reading := Except Request Options

/-- Turn on an option that stands alone. Twice is refused. -/
def Options.switchOn (options : Options) : Switch → Reading
  | .trace => if options.trace then .error .refused else .ok { options with trace := true }
  | .json => if options.json then .error .refused else .ok { options with json := true }
  | .list => if options.list then .error .refused else .ok { options with list := true }
  | .help => .error .help
  | .version => .error .version

/-- Give an option its value. Inputs add up, the limit may be given once. -/
def Options.assign (options : Options) (setting : Setting) (value : List Char) : Reading :=
  match setting with
  | .input => .ok { options with inputs := options.inputs ++ [String.ofList value] }
  | .maxSteps =>
      match options.maxSteps, count? value with
      | none, some limit => .ok { options with maxSteps := some limit }
      | _, _ => .error .refused

/-- Take an argument that is no option. There is room for one. -/
def Options.takeProgram (options : Options) (argument : String) : Reading :=
  if options.program.isSome then .error .refused else .ok { options with program := some argument }

/-- The options after an argument, and the option that waits for its value in the next argument. -/
abbrev Taken := Except Request (Options × Option Setting)

/-- Take letters after a single hyphen. A letter whose option takes a value takes the rest of the argument
    for it, without an equals sign at its start, or waits if there is no rest. -/
def Options.takeLetters (options : Options) : List Char → Taken
  | [] => .ok (options, none)
  | letter :: rest =>
      match Flag.ofLetter? letter with
      | none => .error .refused
      | some (.switch switch) =>
          match options.switchOn switch with
          | .error request => .error request
          | .ok options => options.takeLetters rest
      | some (.setting setting) =>
          match rest with
          | [] => .ok (options, some setting)
          | '=' :: value => (options.assign setting value).map (·, none)
          | value => (options.assign setting value).map (·, none)

/-- Take a word after two hyphens. Its value stands after an equals sign or in the next argument. -/
def Options.takeWord (options : Options) (word : List Char) : Taken :=
  let value := word.dropWhile (· != '=')
  match Flag.ofWord? (word.takeWhile (· != '=')) with
  | none => .error .refused
  | some (.switch switch) =>
      if value.isEmpty then (options.switchOn switch).map (·, none) else .error .refused
  | some (.setting setting) =>
      match value with
      | [] => .ok (options, some setting)
      | _ :: value => (options.assign setting value).map (·, none)

/-- Take arguments that cannot be options any more. -/
def Options.takeRest (options : Options) : List String → Reading
  | [] => .ok options
  | argument :: arguments =>
      match options.takeProgram argument with
      | .error request => .error request
      | .ok options => options.takeRest arguments

/-- Take arguments one after the other. Two hyphens end the options; a single hyphen is no option. An
    option that waits for its value takes the next argument unless that looks like an option. -/
def Options.takeAll (options : Options) (waiting : Option Setting) : List String → Reading
  | [] => if waiting.isSome then .error .refused else .ok options
  | argument :: arguments =>
      match argument.toList, waiting with
      | ['-', '-'], none => options.takeRest arguments
      | '-' :: _ :: _, some _ => .error .refused
      | '-' :: '-' :: word, none =>
          match options.takeWord word with
          | .error request => .error request
          | .ok (options, waiting) => options.takeAll waiting arguments
      | '-' :: letter :: letters, none =>
          match options.takeLetters (letter :: letters) with
          | .error request => .error request
          | .ok (options, waiting) => options.takeAll waiting arguments
      | value, some setting =>
          match options.assign setting value with
          | .error request => .error request
          | .ok options => options.takeAll none arguments
      | _, none =>
          match options.takeProgram argument with
          | .error request => .error request
          | .ok options => options.takeAll none arguments

/-- What arguments ask for. -/
def Request.ofArguments (arguments : List String) : Request :=
  match Options.takeAll {} none arguments with
  | .error request => request
  | .ok options => run options

end Multitape.CommandLine
