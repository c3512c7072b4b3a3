/-
Module: Multitape.Proofs.InputIndependence
Purpose: Inputs that are given to one run of the command line do not influence each other. One machine is
  used for all of them, but whatever an evaluation leaves behind, the reset after it makes the machine
  a fresh one; so each input adds to what is printed what it adds when it is given alone, and only an
  input that cannot be loaded ends the run before the others are looked at.
Main exports: wellFormed_of_findProgram, evaluate_mono, reset_final_of_evaluate, Evaluates,
  runInputs_append, Names, Answers, respond_of_names, inputs_run_independently
-/
import Mathlib.Tactic.Choose
import Multitape.CommandLine
import Multitape.Proofs.BundledTables
import Multitape.Proofs.StepLimit

namespace Multitape

/-! ### Programs that are found -/

/-- A table is well-formed under any name. -/
theorem Program.WellFormed.withName {program : Program} (wellFormed : program.WellFormed)
    (name : String) : (program.withName name).WellFormed where
  tapes_pos := wellFormed.tapes_pos
  initial_lt := wellFormed.initial_lt
  initial_not_accepting := wellFormed.initial_not_accepting
  wildcard_not_mem := wellFormed.wildcard_not_mem
  blank_mem := wellFormed.blank_mem
  rules_fit := by
    intro state stateMem transition mem
    have fits := wellFormed.rules_fit state stateMem transition mem
    exact ⟨fits.target_lt, fits.read_length, fits.write_length, fits.directions_length,
      fits.read_mem, fits.write_mem⟩
  accepting_rules := wellFormed.accepting_rules
  source_eq := wellFormed.source_eq

/-- Every program that was read from a text is well-formed. -/
theorem wellFormed_of_parse {text : String} {program : Program}
    (read : Description.parse text = .ok program) : program.WellFormed := by
  unfold Description.parse Description.parseChars at read
  dsimp only at read
  split at read
  · cases read
  · rename_i declarations _
    cases built : declarations.build with
    | error cause =>
        rw [built] at read
        cases read
    | ok other =>
        rw [built] at read
        cases read
        exact wellFormed_of_build built

theorem Catalog.wellFormed_of_programNamed {name : String} {program : Program}
    (found : programNamed name = .ok program) : program.WellFormed := by
  unfold programNamed at found
  split at found
  · rename_i other listed
    cases found
    obtain ⟨entry, -, described⟩ := List.mem_filterMap.1 (List.mem_of_find?_eq_some listed)
    unfold Entry.program? at described
    split at described
    · rename_i read
      cases described
      exact (wellFormed_of_parse read).withName entry.name
    · cases described
  · cases found

theorem Library.wellFormed_of_loadFile {path : String} {tree : Except ReadFault FileTree}
    {program : Program} (loaded : loadFile path tree = .ok program) : program.WellFormed := by
  unfold loadFile at loaded
  split at loaded
  · cases loaded
  · rename_i text _
    cases read : Description.parse text with
    | error error =>
        rw [read] at loaded
        cases loaded
    | ok other =>
        rw [read] at loaded
        have named : other.withName (Path.stem (Path.fileName path)) = program := Except.ok.inj loaded
        rw [← named]
        exact (wellFormed_of_parse read).withName _

namespace CommandLine

open Machine

theorem wellFormed_of_findProgram {source : String} {found : Except ReadFault FileTree}
    {program : Program} (named : findProgram source found = .ok program) : program.WellFormed := by
  unfold findProgram at named
  split at named
  · exact Catalog.wellFormed_of_programNamed named
  · exact Catalog.wellFormed_of_programNamed named
  · exact Library.wellFormed_of_loadFile named

/-! ### One evaluation -/

section Evaluations

variable {program : Program} {trace : Bool} {limit : Option Nat} {fuel : Nat} {input : List Char}
  {evaluation : Evaluation}

/-- More fuel changes no answer. -/
theorem evaluate_mono {machine : Machine} {more : Nat}
    (found : evaluate trace fuel limit machine input = some evaluation) (enough : fuel ≤ more) :
    evaluate trace more limit machine input = some evaluation := by
  by_cases loaded : (machine.start input).2 = .ok .advanced
  · have started : machine.start input = (_, .ok .advanced) := Prod.ext rfl loaded
    rw [evaluate_of_advanced started, evaluateFrom_eq_some_iff] at found ⊢
    obtain ⟨count, below, goesOn, ending⟩ := found
    exact ⟨count, Nat.lt_of_lt_of_le below enough, goesOn, ending⟩
  · obtain ⟨other, -, answers⟩ := exists_unloaded loaded trace
    rw [answers] at found ⊢
    exact found

/-- An evaluation leaves a sound machine, however it ends. -/
theorem sound_final_of_evaluate (wellFormed : program.WellFormed)
    (found : evaluate trace fuel limit (ofProgram program) input = some evaluation) :
    evaluation.final.Sound program := by
  have fresh := (sound_ofProgram wellFormed).start wellFormed input
  have kept : ∀ count, (stepTimes count ((ofProgram program).start input).1).Sound program :=
    fun count => stepTimes_induction (fun _ sound => sound.step wellFormed) count fresh
  by_cases loaded : ((ofProgram program).start input).2 = .ok .advanced
  · have started : (ofProgram program).start input = (_, .ok .advanced) := Prod.ext rfl loaded
    rw [evaluate_of_advanced started, evaluateFrom_eq_some_iff] at found
    obtain ⟨count, -, -, ending⟩ := found
    cases ending with
    | stopped spent => exact kept count
    | halted allowed halts => exact kept (count + 1)
  · obtain ⟨other, unloaded, answers⟩ := exists_unloaded loaded trace
    obtain rfl := Option.some.inj (found.symm.trans (answers fuel limit))
    rw [unloaded.final_eq]
    exact fresh

/-- Whatever an evaluation leaves behind, a reset makes it a fresh machine. -/
theorem reset_final_of_evaluate (wellFormed : program.WellFormed)
    (found : evaluate trace fuel limit (ofProgram program) input = some evaluation) :
    evaluation.final.reset = ofProgram program :=
  (sound_final_of_evaluate wellFormed found).reset_eq

/-- Only a start can fail. -/
theorem result_of_evaluate {machine : Machine}
    (found : evaluate trace fuel limit machine input = some evaluation)
    (loads : ∀ error, (machine.start input).2 ≠ .error error) :
    ∃ outcome, evaluation.result = .ok outcome := by
  rcases started : machine.start input with ⟨next, error | _ | halt⟩
  · rw [started] at loads
    exact absurd rfl (loads error)
  · rw [evaluate_of_advanced started, evaluateFrom_eq_some_iff] at found
    obtain ⟨count, -, -, ending⟩ := found
    cases ending with
    | stopped spent => exact ⟨_, rfl⟩
    | halted allowed halts => exact ⟨_, rfl⟩
  · rw [evaluate, started] at found
    cases found
    exact ⟨_, rfl⟩

end Evaluations

/-! ### What an input adds -/

/-- The start of an input does not fail, and its evaluation on a fresh machine comes to an end. -/
structure Evaluates (options : Options) (program : Program) (input : String) : Prop where
  loads : ∀ error, ((ofProgram program).start input.toList).2 ≠ .error error
  ends : ∃ fuel evaluation,
    evaluate options.trace fuel options.maxSteps (ofProgram program) input.toList = some evaluation

/-- A text is what an input adds to standard output, if its evaluation comes to an end. -/
def Adds (options : Options) (program : Program) (input text : String) : Prop :=
  ∀ fuel evaluation,
    evaluate options.trace fuel options.maxSteps (ofProgram program) input.toList = some evaluation →
      Transcript.ofLines (evaluation.lines input) = ⟨text, ""⟩

/-- There is one such text for each input. -/
theorem exists_adds (options : Options) (program : Program) (input : String) :
    ∃ text, Adds options program input text := by
  by_cases ends : ∃ fuel evaluation, evaluate options.trace fuel options.maxSteps
      (ofProgram program) input.toList = some evaluation
  · obtain ⟨fuel, evaluation, found⟩ := ends
    refine ⟨(Transcript.ofLines (evaluation.lines input)).out, fun other otherEvaluation same => ?_⟩
    have both := evaluate_mono found (Nat.le_max_left fuel other)
    rw [evaluate_mono same (Nat.le_max_right fuel other)] at both
    rw [Option.some.inj both]
    rfl
  · exact ⟨"", fun fuel evaluation found => absurd ⟨fuel, evaluation, found⟩ ends⟩

/-! ### One input after the other -/

theorem Transcript.append_eq (first second : Transcript) :
    first ++ second = ⟨first.out ++ second.out, first.err ++ second.err⟩ := rfl

section Inputs

variable {options : Options} {program : Program} {part : String → String}

/-- Inputs that come to an end add their parts, one after the other, and leave a fresh machine to the
    inputs after them. -/
theorem runInputs_append (wellFormed : program.WellFormed)
    (adds : ∀ input, Adds options program input (part input)) {before : List String}
    (evaluated : ∀ input ∈ before, Evaluates options program input) (after : List String) :
    ∃ enough, ∀ fuel, enough ≤ fuel →
      runInputs fuel options (ofProgram program) (before ++ after) =
        (runInputs fuel options (ofProgram program) after).map fun answer =>
          (⟨String.join (before.map part) ++ answer.1.out, answer.1.err⟩, answer.2) := by
  induction before with
  | nil =>
      refine ⟨0, fun fuel _ => ?_⟩
      rw [List.nil_append]
      cases runInputs fuel options (ofProgram program) after <;> simp
  | cons input before ih =>
      obtain ⟨first, rest⟩ := List.forall_mem_cons.1 evaluated
      obtain ⟨needed, evaluation, found⟩ := first.ends
      obtain ⟨enough, others⟩ := ih rest
      refine ⟨max needed enough, fun fuel within => ?_⟩
      have fueled := evaluate_mono found (Nat.le_trans (Nat.le_max_left needed enough) within)
      obtain ⟨outcome, result⟩ := result_of_evaluate found first.loads
      -- After the reset the others are given to a fresh machine, as the induction hypothesis wants it.
      rw [List.cons_append, runInputs, fueled]
      simp only [Option.bind_eq_bind, Option.bind_some, result, adds input needed evaluation found,
        reset_final_of_evaluate wellFormed found,
        others fuel (Nat.le_trans (Nat.le_max_right needed enough) within)]
      cases runInputs fuel options (ofProgram program) after <;>
        simp [Transcript.append_eq, String.append_assoc]

/-- An input whose start fails ends the run. Of a trace only the header has been printed. -/
theorem runInputs_of_failing {input : String} {error : Error}
    (failing : ((ofProgram program).start input.toList).2 = .error error) (after : List String)
    (fuel : Nat) :
    runInputs fuel options (ofProgram program) (input :: after) =
      some (Transcript.ofLines (openingLines options.trace), some error) := by
  have started : (ofProgram program).start input.toList = (_, .error error) := Prod.ext rfl failing
  rw [runInputs, evaluate, started]
  simp [Evaluation.lines]

/-- The inputs among the options are not looked at while inputs are evaluated. -/
theorem runInputs_inputs (fuel : Nat) (listed : List String) (machine : Machine)
    (inputs : List String) :
    runInputs fuel { options with inputs := listed } machine inputs =
      runInputs fuel options machine inputs := by
  induction inputs generalizing machine with
  | nil => rfl
  | cons input inputs ih => simp only [runInputs, ih]

end Inputs

/-! ### Runs of the command line -/

/-- The options ask for runs of a program: its source is named and leads to no directory, and the
    program is found there. -/
structure Names (lookup : String → Except ReadFault FileTree) (options : Options)
    (program : Program) : Prop where
  runs : options.list = false
  found : ∃ source, options.program = some source ∧
    FileTree.leadsToDirectory (lookup source) = false ∧
    findProgram source (lookup source) = .ok program

/-- A row of arguments has an answer, whatever is on standard input: with enough fuel this is it. -/
def Answers (arguments : List String) (lookup : String → Except ReadFault FileTree)
    (output : Output) : Prop :=
  ∃ enough, ∀ fuel, enough ≤ fuel → ∀ stdin, respond fuel arguments lookup stdin = some output

/-- The lines of the warnings about a program. -/
def warningText (program : Program) : String :=
  String.join (program.warnings.map fun warning => "Warning: " ++ warning.message ++ "\n")

/-- The lines that a trace begins with, if one is wanted. -/
def headerText (trace : Bool) : String := if trace then traceHeader ++ "\n" else ""

section Runs

variable {lookup : String → Except ReadFault FileTree} {options : Options} {program : Program}
  {arguments inputs : List String}

theorem Names.wellFormed (named : Names lookup options program) : program.WellFormed := by
  obtain ⟨source, -, -, found⟩ := named.found
  exact wellFormed_of_findProgram found

/-- Warnings and the description come first and do not depend on the inputs. -/
theorem respond_of_names (named : Names lookup options program)
    (asked : Request.ofArguments arguments = .run { options with inputs := inputs })
    (given : inputs ≠ []) (fuel : Nat) (stdin : String) :
    respond fuel arguments lookup stdin =
      (runInputs fuel options (ofProgram program) inputs).map fun answer =>
        ⟨exitCode answer.2.isNone,
          ⟨description options.json (ofProgram program) ++ answer.1.out,
            warningText program ++ answer.1.err ++ (tellError answer.2).err⟩⟩ := by
  obtain ⟨source, program_eq, noDirectory, found⟩ := named.found
  have listed : inputs.isEmpty = false := List.isEmpty_eq_false_iff.2 given
  have asWhole : respond fuel arguments lookup stdin =
      (runProgram fuel { options with inputs := inputs } inputs program).map fun answer =>
        ⟨exitCode answer.2.isNone, answer.1 ++ tellError answer.2⟩ := by
    rw [respond, asked]
    simp only [runOptions, named.runs, program_eq, listed, noDirectory, found, Bool.false_eq_true, if_false]
    cases runProgram fuel _ inputs program <;> rfl
  rw [asWhole, runProgram, runInputs_inputs]
  cases runInputs fuel options (ofProgram program) inputs with
  | none => rfl
  | some answer =>
      have told : (tellError answer.2).out = "" := by
        cases answer.2 <;> rfl
      simp [Transcript.append_eq, Transcript.ofNotices, warningText, told, Function.comp_def,
        String.append_assoc]

/-- Inputs that are given to one run of the command line do not influence each other. Whatever program the
    options name, every input has a part of its own: this is what a run with that input alone prints
    after the description, and what the input adds to a run with several, in their order, as long as no
    start fails. The first input whose start fails adds the header of a trace at most and ends the run
    with its error; what comes after it is not looked at. Warnings stand on standard error before
    anything else, whatever the inputs. -/
theorem inputs_run_independently (named : Names lookup options program) :
    ∃ part : String → String, ∀ (arguments inputs : List String),
      Request.ofArguments arguments = .run { options with inputs := inputs } → inputs ≠ [] →
        (∀ input, inputs = [input] → Evaluates options program input →
          Answers arguments lookup ⟨0,
            ⟨description options.json (ofProgram program) ++ part input, warningText program⟩⟩) ∧
        ((∀ input ∈ inputs, Evaluates options program input) →
          Answers arguments lookup ⟨0,
            ⟨description options.json (ofProgram program) ++ String.join (inputs.map part),
              warningText program⟩⟩) ∧
        ∀ before input after error, inputs = before ++ input :: after →
          (∀ other ∈ before, Evaluates options program other) →
          ((ofProgram program).start input.toList).2 = .error error →
            Answers arguments lookup ⟨1,
              ⟨description options.json (ofProgram program) ++ String.join (before.map part) ++
                  headerText options.trace,
                warningText program ++ "Error: " ++ error.message ++ "\n"⟩⟩ := by
  have wellFormed := named.wellFormed
  choose part adds using exists_adds options program
  refine ⟨part, fun arguments inputs asked given => ?_⟩
  have several : (∀ input ∈ inputs, Evaluates options program input) →
      Answers arguments lookup ⟨0,
        ⟨description options.json (ofProgram program) ++ String.join (inputs.map part),
          warningText program⟩⟩ := by
    intro evaluated
    obtain ⟨enough, printed⟩ := runInputs_append wellFormed adds evaluated []
    refine ⟨enough, fun fuel within stdin => ?_⟩
    have ran := printed fuel within
    rw [List.append_nil] at ran
    rw [respond_of_names named asked given, ran]
    simp [runInputs, tellError, exitCode]
  refine ⟨?_, several, ?_⟩
  · intro input alone evaluated
    subst alone
    have answered := several fun other mem => List.mem_singleton.1 mem ▸ evaluated
    rwa [List.map_singleton, String.join_cons, String.join_nil, String.append_empty] at answered
  · intro before input after error parted evaluated failing
    obtain ⟨enough, printed⟩ := runInputs_append wellFormed adds evaluated (input :: after)
    refine ⟨enough, fun fuel within stdin => ?_⟩
    have ran := printed fuel within
    rw [← parted, runInputs_of_failing failing] at ran
    rw [respond_of_names named asked given, ran]
    cases options.trace <;>
      simp [openingLines, headerText, Transcript.ofLines, tellError, Transcript.ofError,
        Transcript.ofNotices, exitCode, String.append_assoc]

end Runs

/-- Nothing is stored under any path. -/
def nothingStored : String → Except ReadFault FileTree := fun _ => .error .missing

/-- The options that ask for traces of the bundled machine with two tapes. -/
def tracedZerosOnes : Options := { program := some "zeros-ones", trace := true }

theorem names_tracedZerosOnes :
    Names nothingStored tracedZerosOnes Catalog.zerosOnesTable where
  runs := rfl
  found := by
    have bundled : Catalog.zerosOnesTable ∈ Catalog.programs := by
      simp [Catalog.programs_eq]
    have named := Catalog.programNamed_name bundled
    rw [show Catalog.zerosOnesTable.name = "zeros-ones" from rfl] at named
    exact ⟨"zeros-ones", rfl, rfl, named⟩

/-- An input alone, with another one that is rejected, and before one that cannot be loaded, after which
    another one is given. -/
theorem inputs_run_independently_on_zerosOnes :
    Names nothingStored tracedZerosOnes Catalog.zerosOnesTable ∧
      ∃ part : String → String,
        Answers ["zeros-ones", "-t", "-i", "01"] nothingStored ⟨0,
          ⟨description false (ofProgram Catalog.zerosOnesTable) ++ part "01",
            warningText Catalog.zerosOnesTable⟩⟩ ∧
        Answers ["zeros-ones", "-ti", "01", "-i0"] nothingStored ⟨0,
          ⟨description false (ofProgram Catalog.zerosOnesTable) ++ String.join [part "01", part "0"],
            warningText Catalog.zerosOnesTable⟩⟩ ∧
        Answers ["--trace", "zeros-ones", "-i", "01", "-i", ".", "-i", "1"] nothingStored ⟨1,
          ⟨description false (ofProgram Catalog.zerosOnesTable) ++ String.join [part "01"] ++
              headerText true,
            warningText Catalog.zerosOnesTable ++ "Error: " ++ (Error.foreignSymbol '.').message ++
              "\n"⟩⟩ := by
  have first : Evaluates tracedZerosOnes Catalog.zerosOnesTable "01" := by
    refine ⟨fun error failed => ?_, 6, _, by rfl⟩
    cases failed
  have second : Evaluates tracedZerosOnes Catalog.zerosOnesTable "0" := by
    refine ⟨fun error failed => ?_, 6, _, by rfl⟩
    cases failed
  obtain ⟨part, runs⟩ := inputs_run_independently names_tracedZerosOnes
  obtain ⟨alone, -, -⟩ := runs ["zeros-ones", "-t", "-i", "01"] ["01"] (by rfl) (by decide)
  obtain ⟨-, several, -⟩ := runs ["zeros-ones", "-ti", "01", "-i0"] ["01", "0"] (by rfl) (by decide)
  obtain ⟨-, -, failing⟩ := runs ["--trace", "zeros-ones", "-i", "01", "-i", ".", "-i", "1"]
    ["01", ".", "1"] (by rfl) (by decide)
  refine ⟨names_tracedZerosOnes, part, ?_, ?_, ?_⟩
  · exact alone "01" rfl first
  · apply several
    rw [List.forall_mem_cons, List.forall_mem_singleton]
    exact ⟨first, second⟩
  · refine failing ["01"] "." ["1"] (.foreignSymbol '.') rfl ?_ (by rfl)
    rw [List.forall_mem_singleton]
    exact first

end CommandLine

end Multitape
