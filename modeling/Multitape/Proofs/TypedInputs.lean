/-
Module: Multitape.Proofs.TypedInputs
Purpose: It does not matter whether inputs are given as arguments or typed on standard input.  A text on
  standard input is read line by line: white space around an input is lost, and a zero alone ends the reading, as
  the end of the text does. Inputs that survive this are the inputs that are read, and a run looks at nothing else.
Main exports: nextInput?, readInputs_eq, runTyped, runProgram_typedInputs, Typeable, Types,
  readInputs_of_types, takeAll_givenBefore, ofArguments_inputArguments, runOptions_inputs,
  typed_inputs_are_given_inputs
-/
import Multitape.Proofs.DirectoryRuns
import Multitape.Proofs.WrittenLines

namespace Multitape.CommandLine

/-! ### Standard input, line by line -/

/-- The inputs in a text on standard input. -/
def readInputs (text : List Char) : List String :=
  (((textLines text).map Text.trim).takeWhile (· != endOfInputs)).map String.ofList

theorem typedInputs_eq (stdin : String) : typedInputs stdin = readInputs stdin.toList := rfl

/-- The input on the next line of a text, and what stands behind that line. There is none at the end of the text,
    and none if the line ends the inputs. -/
def nextInput? (text : List Char) : Option (List Char × List Char) :=
  if text = [] then none
  else
    let input := Text.trim (text.takeWhile (· != '\n'))
    if input = endOfInputs then none else some (input, (text.dropWhile (· != '\n')).tail)

/-- A text with characters has a first line. -/
theorem textLines_eq {text : List Char} (some : text ≠ []) :
    textLines text =
      text.takeWhile (· != '\n') :: textLines (text.dropWhile (· != '\n')).tail := by
  induction text with
  | nil => exact absurd rfl some
  | cons c rest ih =>
      rw [textLines]
      by_cases ends : c = '\n'
      · subst ends
        rfl
      · rw [if_neg ends, List.takeWhile_cons_of_pos (by simpa using ends),
          List.dropWhile_cons_of_pos (by simpa using ends)]
        by_cases last : rest = []
        · subst last
          rfl
        · rw [ih last]

/-- Inputs are read one after the other. -/
theorem readInputs_eq (text : List Char) :
    readInputs text =
      match nextInput? text with
      | none => []
      | some (input, rest) => String.ofList input :: readInputs rest := by
  unfold nextInput?
  by_cases nothing : text = []
  · subst nothing
    rfl
  · rw [if_neg nothing, readInputs, textLines_eq nothing, List.map_cons]
    dsimp only
    by_cases zero : Text.trim (text.takeWhile (· != '\n')) = endOfInputs
    · rw [if_pos zero, List.takeWhile_cons_of_neg (by simpa using zero)]
      rfl
    · rw [if_neg zero, List.takeWhile_cons_of_pos (by simpa using zero), List.map_cons]
      rfl

theorem length_lt_of_nextInput? {text input rest : List Char}
    (next : nextInput? text = some (input, rest)) : rest.length < text.length := by
  unfold nextInput? at next
  split at next
  · cases next
  · rename_i some
    dsimp only at next
    split at next
    · cases next
    · cases next
      have shorter := (List.dropWhile_sublist (p := (· != '\n')) (l := text)).length_le
      have positive := List.length_pos_iff.2 some
      rw [List.length_tail]
      omega

/-- Evaluate inputs while they are typed: a line is read when the input before it has been evaluated, and no line
    is read any more when an input could not be started. -/
def runTyped (fuel : Nat) (options : Options) (machine : Machine) (text : List Char) :
    Option (Transcript × Option Error) :=
  match _ : nextInput? text with
  | none => some ({}, none)
  | some (input, rest) => do
      let evaluation ← evaluate options.trace fuel options.maxSteps machine input
      let printed := Transcript.ofLines (evaluation.lines (String.ofList input))
      match evaluation.result with
      | .error error => return (printed, some error)
      | .ok _ =>
          let (others, error) ← runTyped fuel options evaluation.final.reset rest
          return (printed ++ others, error)
termination_by text.length
decreasing_by exact length_lt_of_nextInput? ‹_›

/-- Inputs may as well be read before the first of them is evaluated. -/
theorem runTyped_eq (fuel : Nat) (options : Options) (machine : Machine) (text : List Char) :
    runTyped fuel options machine text = runInputs fuel options machine (readInputs text) := by
  induction length : text.length using Nat.strong_induction_on generalizing text machine with
  | _ length ih =>
      rw [runTyped, readInputs_eq]
      split
      · rename_i none
        rw [none]
        rfl
      · rename_i input rest next
        have shorter := length_lt_of_nextInput? next
        rw [next]
        dsimp only
        rw [runInputs, String.toList_ofList]
        refine bind_congr fun evaluation => ?_
        cases evaluation.result with
        | error error => rfl
        | ok outcome =>
            dsimp only
            rw [ih _ (length ▸ shorter) _ _ rfl]

/-- A program prints the same, whether the inputs on standard input are read at once or while it runs. -/
theorem runProgram_typedInputs (fuel : Nat) (options : Options) (stdin : String) (program : Program) :
    runProgram fuel options (typedInputs stdin) program =
      (runTyped fuel options (Machine.ofProgram program) stdin.toList).map fun answer =>
        (prologue options program ++ answer.1, answer.2) := by
  rw [runProgram_eq, typedInputs_eq, runTyped_eq]

/-! ### Inputs that can be typed -/

/-- An input that survives its line: it has no line feed in it and no white space at its ends, and it is not the
    zero that ends the inputs. -/
structure Typeable (input : String) : Prop where
  single : '\n' ∉ input.toList
  starts : ∀ c ∈ input.toList.head?, Text.isWhiteSpace c = false
  ends : ∀ c ∈ input.toList.getLast?, Text.isWhiteSpace c = false
  not_zero : input ≠ "0"

/-- White space within a line. A carriage return is such. -/
def Padding (padding : List Char) : Prop :=
  ∀ c ∈ padding, Text.isWhiteSpace c = true ∧ c ≠ '\n'

/-- A text on standard input holds inputs, each on its own line and with white space around it, up to its end or to a
    line that is a zero. -/
inductive Types : List String → List Char → Prop where
  | ended : Types [] []
  | stopped {line rest : List Char} (single : '\n' ∉ line) (zero : Text.trim line = ['0'])
      (behind : rest = [] ∨ ∃ more, rest = '\n' :: more) : Types [] (line ++ rest)
  | line {before after text : List Char} {input : String} {inputs : List String}
      (paddingBefore : Padding before) (paddingAfter : Padding after) (rest : Types inputs text) :
      Types (input :: inputs) (before ++ input.toList ++ after ++ '\n' :: text)

/-- The line that a text begins with tells its next input. -/
theorem nextInput?_append {line rest : List Char} (single : '\n' ∉ line)
    (behind : rest = [] ∨ ∃ more, rest = '\n' :: more) (nonempty : line ++ rest ≠ []) :
    nextInput? (line ++ rest) =
      if Text.trim line = endOfInputs then none else some (Text.trim line, rest.tail) := by
  have inside : ∀ c ∈ line, (c != '\n') = true :=
    fun _ mem => bne_iff_ne.2 (ne_of_mem_of_not_mem mem single)
  have stops : rest.takeWhile (· != '\n') = [] ∧ rest.dropWhile (· != '\n') = rest := by
    rcases behind with rfl | ⟨more, rfl⟩ <;> exact ⟨rfl, rfl⟩
  unfold nextInput?
  rw [if_neg nonempty, List.takeWhile_append_of_pos inside, List.dropWhile_append_of_pos inside, stops.1,
    stops.2, List.append_nil]

/-- Inputs that can be typed are read from a text that holds them. -/
theorem readInputs_of_types {inputs : List String} {text : List Char} (typed : Types inputs text)
    (typeable : ∀ input ∈ inputs, Typeable input) : readInputs text = inputs := by
  induction typed with
  | ended => rfl
  | @stopped line rest single zero behind =>
      have nonempty : line ++ rest ≠ [] := by
        rintro nothing
        rw [(List.append_eq_nil_iff.1 nothing).1] at zero
        cases zero
      rw [readInputs_eq, nextInput?_append single behind nonempty, endOfInputs, if_pos zero]
  | @line before after text input inputs paddingBefore paddingAfter rest ih =>
      obtain ⟨first, others⟩ := List.forall_mem_cons.1 typeable
      have trimmed : Text.trim (before ++ input.toList ++ after) = input.toList :=
        Description.Layout.trim_between (fun c mem => (paddingBefore c mem).1)
          (fun c mem => (paddingAfter c mem).1) first.starts first.ends
      have single : '\n' ∉ before ++ input.toList ++ after := by
        simp only [List.mem_append, not_or]
        exact ⟨⟨fun mem => (paddingBefore _ mem).2 rfl, first.single⟩,
          fun mem => (paddingAfter _ mem).2 rfl⟩
      have other : input.toList ≠ endOfInputs := fun same =>
        first.not_zero (String.toList_inj.1 same)
      rw [readInputs_eq, nextInput?_append single (.inr ⟨text, rfl⟩) (by simp), trimmed, if_neg other]
      dsimp only
      rw [String.ofList_toList, List.tail_cons, ih others]

/-! ### Inputs among the arguments -/

/-- The options with inputs before their own. -/
def Options.givenBefore (inputs : List String) (options : Options) : Options :=
  { options with inputs := inputs ++ options.inputs }

/-- A request with inputs before its own. -/
def Request.givenBefore (inputs : List String) : Request → Request
  | run options => run (options.givenBefore inputs)
  | request => request

/-- What is read if inputs are given before: a request ends the reading as it does without them. -/
def readAfter {α : Type} (inputs : List String) (change : α → α) : Except Request α → Except Request α
  | .error request => .error (request.givenBefore inputs)
  | .ok value => .ok (change value)

section Arguments

variable (inputs : List String) (options : Options)

theorem switchOn_givenBefore (switch : Switch) :
    (options.givenBefore inputs).switchOn switch =
      readAfter inputs (Options.givenBefore inputs) (options.switchOn switch) := by
  obtain ⟨program, given, trace, json, maxSteps, list⟩ := options
  cases switch with
  | trace => cases trace <;> rfl
  | json => cases json <;> rfl
  | list => cases list <;> rfl
  | help => rfl
  | version => rfl

theorem assign_givenBefore (setting : Setting) (value : List Char) :
    (options.givenBefore inputs).assign setting value =
      readAfter inputs (Options.givenBefore inputs) (options.assign setting value) := by
  obtain ⟨program, given, trace, json, maxSteps, list⟩ := options
  cases setting with
  | input => simp [Options.assign, Options.givenBefore, readAfter]
  | maxSteps =>
      simp only [Options.assign, Options.givenBefore]
      cases maxSteps with
      | none => cases count? value <;> rfl
      | some limit => rfl

theorem takeProgram_givenBefore (argument : String) :
    (options.givenBefore inputs).takeProgram argument =
      readAfter inputs (Options.givenBefore inputs) (options.takeProgram argument) := by
  obtain ⟨program, given, trace, json, maxSteps, list⟩ := options
  cases program <;> rfl

theorem takeRest_givenBefore (arguments : List String) :
    (options.givenBefore inputs).takeRest arguments =
      readAfter inputs (Options.givenBefore inputs) (options.takeRest arguments) := by
  induction arguments generalizing options with
  | nil => rfl
  | cons argument arguments ih =>
      rw [Options.takeRest, Options.takeRest, takeProgram_givenBefore]
      cases options.takeProgram argument with
      | error request => rfl
      | ok next => exact ih next

theorem takeLetters_givenBefore (letters : List Char) :
    (options.givenBefore inputs).takeLetters letters =
      readAfter inputs (Prod.map (Options.givenBefore inputs) id) (options.takeLetters letters) := by
  induction letters generalizing options with
  | nil => rfl
  | cons letter rest ih =>
      rw [Options.takeLetters, Options.takeLetters]
      cases Flag.ofLetter? letter with
      | none => rfl
      | some flag =>
          cases flag with
          | switch switch =>
              dsimp only
              rw [switchOn_givenBefore]
              cases options.switchOn switch with
              | error request => rfl
              | ok next => exact ih next
          | setting setting =>
              dsimp only
              split
              · rfl
              · rw [assign_givenBefore]
                cases options.assign setting _ <;> rfl
              · rw [assign_givenBefore]
                cases options.assign setting _ <;> rfl

theorem takeWord_givenBefore (word : List Char) :
    (options.givenBefore inputs).takeWord word =
      readAfter inputs (Prod.map (Options.givenBefore inputs) id) (options.takeWord word) := by
  unfold Options.takeWord
  dsimp only
  cases Flag.ofWord? (word.takeWhile (· != '=')) with
  | none => rfl
  | some flag =>
      cases flag with
      | switch switch =>
          dsimp only
          split
          · rw [switchOn_givenBefore]
            cases options.switchOn switch <;> rfl
          · rfl
      | setting setting =>
          dsimp only
          split
          · rfl
          · rw [assign_givenBefore]
            cases options.assign setting _ <;> rfl

theorem takeAll_givenBefore (waiting : Option Setting) (arguments : List String) :
    (options.givenBefore inputs).takeAll waiting arguments =
      readAfter inputs (Options.givenBefore inputs) (options.takeAll waiting arguments) := by
  induction arguments generalizing options waiting with
  | nil => cases waiting <;> rfl
  | cons argument arguments ih =>
      unfold Options.takeAll
      split
      · exact takeRest_givenBefore inputs options arguments
      · rfl
      · rw [takeWord_givenBefore]
        cases options.takeWord _ with
        | error request => rfl
        | ok taken => exact ih taken.1 taken.2
      · rw [takeLetters_givenBefore]
        cases options.takeLetters _ with
        | error request => rfl
        | ok taken => exact ih taken.1 taken.2
      · rw [assign_givenBefore]
        cases options.assign _ _ with
        | error request => rfl
        | ok next => exact ih next none
      · rw [takeProgram_givenBefore]
        cases options.takeProgram argument with
        | error request => rfl
        | ok next => exact ih next none

end Arguments

/-- An input after an equals sign, whatever it begins with. -/
def inputArgument (input : String) : String := "--input=" ++ input

theorem takeAll_inputArgument (options : Options) (input : String) (arguments : List String) :
    options.takeAll none (inputArgument input :: arguments) =
      { options with inputs := options.inputs ++ [input] }.takeAll none arguments := by
  have spelled : (inputArgument input).toList =
      '-' :: '-' :: 'i' :: 'n' :: 'p' :: 'u' :: 't' :: '=' :: input.toList := by
    simp [inputArgument]
  have taken : options.takeWord ('i' :: 'n' :: 'p' :: 'u' :: 't' :: '=' :: input.toList) =
      .ok ({ options with inputs := options.inputs ++ [input] }, none) := by
    have flag : Flag.ofWord? ['i', 'n', 'p', 'u', 't'] = some (.setting .input) := by rfl
    simp [Options.takeWord, flag, Options.assign, Except.map]
  rw [Options.takeAll.eq_def]
  simp only [spelled, taken]

/-- Inputs that are given add up, in their order. -/
theorem takeAll_inputArguments (options : Options) (inputs arguments : List String) :
    options.takeAll none (inputs.map inputArgument ++ arguments) =
      { options with inputs := options.inputs ++ inputs }.takeAll none arguments := by
  induction inputs generalizing options with
  | nil =>
      rw [List.append_nil]
      rfl
  | cons input inputs ih =>
      rw [List.map_cons, List.cons_append, takeAll_inputArgument, ih]
      simp

/-- Whatever arguments ask for, they ask for the same with inputs if these are given before. -/
theorem ofArguments_inputArguments (inputs arguments : List String) :
    Request.ofArguments (inputs.map inputArgument ++ arguments) =
      (Request.ofArguments arguments).givenBefore inputs := by
  have given : ({ inputs := [] ++ inputs } : Options) = Options.givenBefore inputs {} := by
    simp [Options.givenBefore]
  unfold Request.ofArguments
  rw [takeAll_inputArguments, given, takeAll_givenBefore]
  cases Options.takeAll {} none arguments <;> rfl

/-! ### Runs -/

section Runs

variable {options : Options} (fuel : Nat) (listed inputs : List String)

/-- Inputs among the options matter only as the inputs that are given. -/
theorem runProgram_inputs (program : Program) :
    runProgram fuel { options with inputs := listed } inputs program =
      runProgram fuel options inputs program := by
  rw [runProgram_eq, runProgram_eq, runInputs_inputs]
  rfl

theorem runLoaded_inputs (result : Except Error Library.Loaded) :
    runLoaded fuel { options with inputs := listed } inputs result =
      runLoaded fuel options inputs result := by
  cases result with
  | error error => rfl
  | ok loaded => rw [runLoaded, runLoaded, runProgram_inputs]

theorem runDirectory_inputs (results : List (Except Error Library.Loaded)) :
    runDirectory fuel { options with inputs := listed } inputs results =
      runDirectory fuel options inputs results := by
  induction results with
  | nil => rfl
  | cons result results ih => rw [runDirectory, runDirectory, runLoaded_inputs, ih]

theorem runOptions_inputs {stdin unread : String}
    (same : givenInputs { options with inputs := listed } unread = givenInputs options stdin)
    (lookup : String → Except ReadFault FileTree) :
    runOptions fuel { options with inputs := listed } lookup unread =
      runOptions fuel options lookup stdin := by
  unfold givenInputs at same
  unfold runOptions
  dsimp only at same ⊢
  simp only [same, runDirectory_inputs, runProgram_inputs]

end Runs

/-- Inputs that are typed on standard input, each on its own line, are the same as inputs that are given as
    arguments, whatever is run and however it ends. They can all be given, and if they are, standard input is not
    read. -/
theorem typed_inputs_are_given_inputs {options : Options} {inputs others : List String} {stdin : String}
    (asked : Request.ofArguments others = .run options) (ungiven : options.inputs = [])
    (nonempty : inputs ≠ []) (typeable : ∀ input ∈ inputs, Typeable input)
    (typed : Types inputs stdin.toList) :
    Request.ofArguments (inputs.map inputArgument ++ others) =
        .run { options with inputs := inputs } ∧
      ∀ arguments, Request.ofArguments arguments = .run { options with inputs := inputs } →
        ∀ fuel lookup unread,
          respond fuel arguments lookup unread = respond fuel others lookup stdin := by
  constructor
  · rw [ofArguments_inputArguments, asked, Request.givenBefore, Options.givenBefore, ungiven,
      List.append_nil]
  · intro arguments given fuel lookup unread
    have same : givenInputs { options with inputs := inputs } unread = givenInputs options stdin := by
      have read : typedInputs stdin = inputs := readInputs_of_types typed typeable
      have listed : inputs.isEmpty = false := List.isEmpty_eq_false_iff.2 nonempty
      simp [givenInputs, ungiven, read, listed]
    rw [respond, respond, given, asked]
    exact runOptions_inputs fuel inputs same lookup

/-- Two inputs, the first with white space around it and a carriage return before its line feed, the second with a
    hyphen; then a zero, and a line that is not read. -/
def twoTyped : String := "\u00a01 0\t\r\n-1\n 0 \r\n1"

theorem types_twoTyped : Types ["1 0", "-1"] twoTyped.toList := by
  have padded : ∀ padding ∈ [['\u00a0'], ['\t', '\r'], []], Padding padding := by
    simp only [Padding, List.forall_mem_cons, List.not_mem_nil, false_implies, implies_true, and_true]
    decide
  have spelled : twoTyped.toList = ['\u00a0'] ++ "1 0".toList ++ ['\t', '\r'] ++ '\n' ::
      ([] ++ "-1".toList ++ [] ++ '\n' :: ([' ', '0', ' ', '\r'] ++ ['\n', '1'])) := by
    rfl
  rw [spelled]
  exact .line (padded _ (by simp)) (padded _ (by simp))
    (.line (padded _ (by simp)) (padded _ (by simp))
      (.stopped (by decide) (by decide) (.inr ⟨_, rfl⟩)))

theorem typed_inputs_are_given_inputs_of_twoTyped :
    Request.ofArguments (["1 0", "-1"].map inputArgument ++ ["d", "-t"]) =
        .run { program := some "d", trace := true, inputs := ["1 0", "-1"] } ∧
      ∀ fuel lookup unread,
        respond fuel ["-i1 0", "d", "-t", "--input=-1"] lookup unread =
          respond fuel ["d", "-t"] lookup twoTyped := by
  have typeable : ∀ input ∈ ["1 0", "-1"], Typeable input := by
    rw [List.forall_mem_cons, List.forall_mem_singleton]
    exact ⟨⟨by decide, by rintro _ ⟨⟩; rfl, by rintro _ ⟨⟩; rfl, by decide⟩,
      ⟨by decide, by rintro _ ⟨⟩; rfl, by rintro _ ⟨⟩; rfl, by decide⟩⟩
  have asked : Request.ofArguments ["d", "-t"] = .run { program := some "d", trace := true } := by rfl
  have same := typed_inputs_are_given_inputs asked rfl (List.cons_ne_nil _ _) typeable types_twoTyped
  exact ⟨same.1, same.2 ["-i1 0", "d", "-t", "--input=-1"] (by rfl)⟩

example : typedInputs twoTyped = ["1 0", "-1"] := by
  rfl

end Multitape.CommandLine
