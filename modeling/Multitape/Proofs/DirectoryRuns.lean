/-
Module: Multitape.Proofs.DirectoryRuns
Purpose: A run over all descriptions in a directory. Every description that loads has a part of its own, the
  same that it has when it is run alone on the same inputs, whatever the other files are and however
  their runs end. A file that does not load only adds its error, and what failed anywhere is remembered in
  the exit code.
Main exports: Library.mem_successes, runInputs_mono, Runs, EvaluationsEnd, exists_runs, RunEnd, runEnd_of_runs,
  Part, runDirectory_eq_some, NamesDirectory, Isolates, directory_isolates_failures
-/
import Multitape.Proofs.InputIndependence
import Multitape.Proofs.Warnings

namespace Multitape

/-! ### Entries of a directory -/

namespace Path

/-- Entries with different names have different paths. -/
theorem join_inj {directory name other : String} :
    join directory name = join directory other ↔ name = other := by
  unfold join
  split
  · exact String.append_right_inj directory
  · exact String.append_right_inj (directory ++ "/")

end Path

namespace Library

variable {directory : String} {entries : List (String × FileTree)} {entry : String × FileTree}
  {results : List (Except Error Loaded)} {loaded : Loaded} {error : Error}

theorem loadDirectory_eq (directory : String) (entries : List (String × FileTree)) :
    loadDirectory directory (.ok (.directory entries)) =
      (failures (readEntries directory entries)).map .error ++
        (sortByPath (successes (readEntries directory entries))).map .ok := rfl

theorem mem_successes : loaded ∈ successes results ↔ .ok loaded ∈ results := by
  rw [successes, List.mem_filterMap]
  constructor
  · rintro ⟨result, mem, same⟩
    cases result with
    | error error => cases same
    | ok other => exact Option.some.inj same ▸ mem
  · exact fun mem => ⟨.ok loaded, mem, rfl⟩

theorem mem_failures : error ∈ failures results ↔ .error error ∈ results := by
  rw [failures, List.mem_filterMap]
  constructor
  · rintro ⟨result, mem, same⟩
    cases result with
    | error other => exact Option.some.inj same ▸ mem
    | ok loaded => cases same
  · exact fun mem => ⟨.error error, mem, rfl⟩

/-- A description that loads has the path of its entry. -/
theorem loadEntry_eq_ok (found : loadEntry directory entry = .ok loaded) :
    loaded.path = Path.join directory entry.1 ∧
      loadFile (Path.join directory entry.1) (entryAt directory entry) = .ok loaded.program := by
  unfold loadEntry at found
  dsimp only at found
  split at found
  · rename_i program read
    cases found
    exact ⟨rfl, read⟩
  · cases found

theorem wellFormed_of_mem_successes (mem : loaded ∈ successes (readEntries directory entries)) :
    loaded.program.WellFormed := by
  obtain ⟨entry, -, found⟩ := List.mem_map.1 (mem_successes.1 mem)
  exact wellFormed_of_loadFile (loadEntry_eq_ok found).2

/-- In a directory no two descriptions have the same path. -/
theorem successes_pairwise_ne (distinct : (entries.map Prod.fst).Nodup) :
    (successes (readEntries directory entries)).Pairwise (·.path ≠ ·.path) := by
  have names : entries.Pairwise (·.1 ≠ ·.1) := List.pairwise_map.1 distinct
  have results : (readEntries directory entries).Pairwise fun first second =>
      ∀ one, first = .ok one → ∀ other, second = .ok other → one.path ≠ other.path := by
    refine List.pairwise_map.2 ((names.filter _).imp fun {first second} differ one read other also same => ?_)
    rw [(loadEntry_eq_ok read).1, (loadEntry_eq_ok also).1, Path.join_inj] at same
    exact differ same
  refine results.filterMap _ fun first second differ one is other also => ?_
  cases first with
  | error _ => cases is
  | ok _ =>
      cases second with
      | error _ => cases also
      | ok _ => exact differ one (congrArg _ (Option.some.inj is)) other (congrArg _ (Option.some.inj also))

theorem sortByPath_perm (list : List Loaded) : (sortByPath list).Perm list :=
  List.mergeSort_perm list _

theorem sortByPath_pairwise (list : List Loaded) : (sortByPath list).Pairwise (·.path ≤ ·.path) :=
  pairwise_mergeSort_le Loaded.path list

end Library

namespace CommandLine

open Machine

theorem Transcript.append_assoc (first second third : Transcript) :
    first ++ second ++ third = first ++ (second ++ third) := by
  simp [Transcript.append_eq, String.append_assoc]

/-! ### Runs of one program -/

/-- The tapes refuse an input: it cannot be started on a fresh machine. -/
def Fails (program : Program) (input : String) (error : Error) : Prop :=
  ((ofProgram program).start input.toList).2 = .error error

/-- What a run of a program on inputs prints, and the error that ends it, if one does: with enough fuel this
    is the answer. -/
def Runs (options : Options) (inputs : List String) (program : Program) (printed : Transcript)
    (error : Option Error) : Prop :=
  ∃ enough, ∀ fuel, enough ≤ fuel →
    runProgram fuel options inputs program = some (printed, error)

/-- What a run of a program begins with: the warnings about it and its description. -/
def prologue (options : Options) (program : Program) : Transcript :=
  Transcript.ofNotices (program.warnings.map ("Warning: " ++ ·.message)) ++
    ⟨description options.json (ofProgram program), ""⟩

/-- The evaluations of a run come to an end: those of all inputs that no failing one stands before. -/
def EvaluationsEnd (options : Options) (inputs : List String) (program : Program) : Prop :=
  ∀ before input after, inputs = before ++ input :: after →
    (∀ other ∈ before, ∀ error, ¬ Fails program other error) →
      ∃ fuel evaluation,
        evaluate options.trace fuel options.maxSteps (ofProgram program) input.toList = some evaluation

/-- How a run of a program on inputs ends. Either every input is started, or the first that cannot be
    ends it with its error: then a run on the inputs before it has printed the same, except for the
    header of a trace. -/
inductive RunEnd (options : Options) (program : Program) :
    List String → Transcript → Option Error → Prop where
  | whole {inputs : List String} {printed : Transcript}
      (loads : ∀ input ∈ inputs, ∀ error, ¬ Fails program input error) :
      RunEnd options program inputs printed none
  | early {before after : List String} {input : String} {error : Error} {earlier : Transcript}
      (loads : ∀ other ∈ before, ∀ error, ¬ Fails program other error)
      (fails : Fails program input error) (runs : Runs options before program earlier none) :
      RunEnd options program (before ++ input :: after)
        (earlier ++ Transcript.ofLines (openingLines options.trace)) (some error)

section Programs

variable {options : Options} {program : Program} {inputs : List String} {fuel more : Nat}
  {printed : Transcript} {error : Option Error}

/-- More fuel changes no answer. -/
theorem runInputs_mono {machine : Machine} {answer : Transcript × Option Error}
    (found : runInputs fuel options machine inputs = some answer) (enough : fuel ≤ more) :
    runInputs more options machine inputs = some answer := by
  induction inputs generalizing machine answer with
  | nil => exact found
  | cons input inputs ih =>
      rw [runInputs] at found ⊢
      obtain ⟨evaluation, evaluated, rest⟩ := Option.bind_eq_some_iff.1 found
      rw [evaluate_mono evaluated enough, Option.bind_eq_bind, Option.bind_some]
      cases result : evaluation.result with
      | error error =>
          rw [result] at rest
          exact rest
      | ok outcome =>
          rw [result] at rest
          obtain ⟨others, ran, last⟩ := Option.bind_eq_some_iff.1 rest
          dsimp only
          rw [ih ran]
          exact last

/-- An input that can be started is evaluated, and the inputs after it are given to a fresh machine. -/
theorem runInputs_cons (wellFormed : program.WellFormed) {input : String} {evaluation : Evaluation}
    {answer : Transcript × Option Error} (loads : ∀ cause, ¬ Fails program input cause)
    (found : evaluate options.trace fuel options.maxSteps (ofProgram program) input.toList =
      some evaluation)
    (others : runInputs fuel options (ofProgram program) inputs = some answer) :
    runInputs fuel options (ofProgram program) (input :: inputs) =
      some (Transcript.ofLines (evaluation.lines input) ++ answer.1, answer.2) := by
  obtain ⟨outcome, result⟩ := result_of_evaluate found loads
  rw [runInputs, found]
  simp only [Option.bind_eq_bind, Option.bind_some, result, reset_final_of_evaluate wellFormed found,
    others]
  rfl

/-- Warnings and the description come first, whatever the inputs are. -/
theorem runProgram_eq (fuel : Nat) (options : Options) (inputs : List String) (program : Program) :
    runProgram fuel options inputs program =
      (runInputs fuel options (ofProgram program) inputs).map fun answer =>
        (prologue options program ++ answer.1, answer.2) := by
  rw [runProgram]
  cases runInputs fuel options (ofProgram program) inputs <;> rfl

theorem runs_of_runInputs
    (found : runInputs fuel options (ofProgram program) inputs = some (printed, error)) :
    Runs options inputs program (prologue options program ++ printed) error :=
  ⟨fuel, fun more enough => by
    rw [runProgram_eq, runInputs_mono found enough, Option.map_some]⟩

/-- A run prints one thing only. -/
theorem Runs.unique {other : Transcript} {otherError : Option Error}
    (runs : Runs options inputs program printed error)
    (also : Runs options inputs program other otherError) : other = printed ∧ otherError = error := by
  obtain ⟨enough, first⟩ := runs
  obtain ⟨needed, second⟩ := also
  have same := (second _ (Nat.le_max_right enough needed)).symm.trans
    (first _ (Nat.le_max_left enough needed))
  exact Prod.mk.inj (Option.some.inj same)

/-- If its evaluations end, so does a run. -/
theorem exists_runs (wellFormed : program.WellFormed)
    (ends : EvaluationsEnd options inputs program) :
    ∃ printed error, Runs options inputs program printed error := by
  have answered : ∃ fuel answer, runInputs fuel options (ofProgram program) inputs = some answer := by
    induction inputs with
    | nil => exact ⟨0, _, rfl⟩
    | cons input inputs ih =>
        by_cases fails : ∃ error, Fails program input error
        · obtain ⟨error, failing⟩ := fails
          exact ⟨0, _, runInputs_of_failing failing inputs 0⟩
        · have loads := not_exists.1 fails
          obtain ⟨needed, evaluation, found⟩ :=
            ends [] input inputs rfl fun other mem => absurd mem List.not_mem_nil
          obtain ⟨enough, answer, others⟩ := ih fun before other after parted earlier =>
            ends (input :: before) other after (by rw [parted]; rfl)
              (List.forall_mem_cons.2 ⟨loads, earlier⟩)
          exact ⟨max needed enough, _, runInputs_cons wellFormed loads
            (evaluate_mono found (Nat.le_max_left needed enough))
            (runInputs_mono others (Nat.le_max_right needed enough))⟩
  obtain ⟨fuel, answer, found⟩ := answered
  exact ⟨_, _, runs_of_runInputs found⟩

/-- The inputs before the first that cannot be started are evaluated as they are without it. -/
theorem runInputs_end (wellFormed : program.WellFormed)
    (found : runInputs fuel options (ofProgram program) inputs = some (printed, error)) :
    (error = none ∧ ∀ input ∈ inputs, ∀ cause, ¬ Fails program input cause) ∨
      ∃ before input after cause earlier, inputs = before ++ input :: after ∧
        (∀ other ∈ before, ∀ cause, ¬ Fails program other cause) ∧ Fails program input cause ∧
        runInputs fuel options (ofProgram program) before = some (earlier, none) ∧
        printed = earlier ++ Transcript.ofLines (openingLines options.trace) ∧ error = some cause := by
  induction inputs generalizing printed error with
  | nil =>
      cases found
      exact .inl ⟨rfl, fun input mem => absurd mem List.not_mem_nil⟩
  | cons input inputs ih =>
      by_cases fails : ∃ cause, Fails program input cause
      · obtain ⟨cause, failing⟩ := fails
        rw [runInputs_of_failing failing] at found
        cases found
        refine .inr ⟨[], input, inputs, cause, {}, rfl, fun other mem => absurd mem List.not_mem_nil,
          failing, rfl, ?_, rfl⟩
        simp [Transcript.append_eq]
      · have loads := not_exists.1 fails
        rw [runInputs] at found
        obtain ⟨evaluation, evaluated, rest⟩ := Option.bind_eq_some_iff.1 found
        obtain ⟨outcome, result⟩ := result_of_evaluate evaluated loads
        -- After the reset the others are given to a fresh machine, as the induction hypothesis wants it.
        rw [result, reset_final_of_evaluate wellFormed evaluated] at rest
        obtain ⟨⟨others, last⟩, ran, same⟩ := Option.bind_eq_some_iff.1 rest
        cases same
        rcases ih ran with ⟨rfl, all⟩ |
          ⟨before, failing, after, cause, earlier, rfl, first, refused, ranBefore, rfl, rfl⟩
        · exact .inl ⟨rfl, List.forall_mem_cons.2 ⟨loads, all⟩⟩
        · exact .inr ⟨input :: before, failing, after, cause, _, rfl,
            List.forall_mem_cons.2 ⟨loads, first⟩, refused,
            runInputs_cons wellFormed loads evaluated ranBefore,
            (Transcript.append_assoc _ _ _).symm, rfl⟩

theorem runEnd_of_runs (wellFormed : program.WellFormed)
    (runs : Runs options inputs program printed error) : RunEnd options program inputs printed error := by
  obtain ⟨enough, answers⟩ := runs
  have found := answers enough (Nat.le_refl enough)
  rw [runProgram_eq] at found
  obtain ⟨⟨added, last⟩, ran, same⟩ := Option.map_eq_some_iff.1 found
  cases same
  rcases runInputs_end wellFormed ran with
    ⟨rfl, loads⟩ | ⟨before, input, after, cause, earlier, rfl, loads, fails, ranBefore, rfl, rfl⟩
  · exact .whole loads
  · rw [← Transcript.append_assoc]
    exact .early loads fails (runs_of_runInputs ranBefore)

/-- The error of a run tells whether some input could not be started. -/
theorem RunEnd.error_eq_none_iff (ended : RunEnd options program inputs printed error) :
    error = none ↔ ∀ input ∈ inputs, ∀ cause, ¬ Fails program input cause := by
  cases ended with
  | whole loads => exact iff_of_true rfl loads
  | early loads fails runs =>
      refine iff_of_false (Option.some_ne_none _) fun all => ?_
      exact all _ (List.mem_append_right _ List.mem_cons_self) _ fails

end Programs

/-! ### One description after the other -/

/-- What is told about an error on standard error. -/
def errorText (error : Error) : String := "Error: " ++ error.message ++ "\n"

theorem ofError_eq (error : Error) : Transcript.ofError error = ⟨"", errorText error⟩ := by
  simp [Transcript.ofError, Transcript.ofNotices, errorText]

/-- The part of a description in a run over a directory: what its run prints, and the error that ends it, if
    one does. -/
structure Part where
  loaded : Library.Loaded
  printed : Transcript
  error : Option Error

namespace Part

/-- The run of a part is a run of its program alone. -/
def RunsOn (options : Options) (inputs : List String) (part : Part) : Prop :=
  Runs options inputs part.loaded.program part.printed part.error

/-- What a part adds to standard output: a line with its path, and what its run prints. -/
def out (part : Part) : String := "==> " ++ part.loaded.path ++ " <==\n" ++ part.printed.out

/-- What a part adds to standard error: what its run prints, and the error that ends it. -/
def err (part : Part) : String := part.printed.err ++ (part.error.map errorText).getD ""

end Part

section Directories

variable {fuel : Nat} {options : Options} {inputs : List String}

/-- Results are run one after the other, and what is printed for one does not depend on the others. -/
theorem runDirectory_eq_some {results : List (Except Error Library.Loaded)}
    {answers : List (Transcript × Bool)}
    (each : List.Forall₂ (fun result answer => runLoaded fuel options inputs result = some answer)
      results answers) :
    runDirectory fuel options inputs results =
      some (⟨String.join (answers.map (·.1.out)), String.join (answers.map (·.1.err))⟩,
        answers.all (·.2)) := by
  induction each with
  | nil => rfl
  | cons first rest ih =>
      rw [runDirectory, first, ih]
      simp [Transcript.append_eq]

/-- There are parts for descriptions whose evaluations end. -/
theorem exists_parts {list : List Library.Loaded}
    (ends : ∀ loaded ∈ list, loaded.program.WellFormed ∧ EvaluationsEnd options inputs loaded.program) :
    ∃ parts : List Part, parts.map Part.loaded = list ∧ ∀ part ∈ parts, part.RunsOn options inputs := by
  induction list with
  | nil => exact ⟨[], rfl, fun part mem => absurd mem List.not_mem_nil⟩
  | cons loaded list ih =>
      obtain ⟨⟨wellFormed, endsFirst⟩, rest⟩ := List.forall_mem_cons.1 ends
      obtain ⟨printed, error, runs⟩ := exists_runs wellFormed endsFirst
      obtain ⟨parts, rfl, others⟩ := ih rest
      exact ⟨⟨loaded, printed, error⟩ :: parts, rfl, List.forall_mem_cons.2 ⟨runs, others⟩⟩

theorem runLoaded_of_runProgram {part : Part}
    (found : runProgram fuel options inputs part.loaded.program = some (part.printed, part.error)) :
    runLoaded fuel options inputs (.ok part.loaded) =
      some (⟨part.out, part.err⟩, part.error.isNone) := by
  have title : Transcript.ofLines ["==> " ++ part.loaded.path ++ " <=="] =
      ⟨"==> " ++ part.loaded.path ++ " <==\n", ""⟩ := by
    simp [Transcript.ofLines, String.append_assoc]
  have told : tellError part.error = ⟨"", (part.error.map errorText).getD ""⟩ := by
    cases part.error with
    | none => rfl
    | some error => exact ofError_eq error
  rw [runLoaded, found]
  simp [title, told, Transcript.append_eq, Part.out, Part.err]

/-- With enough fuel every part has its answer. -/
theorem exists_enough {parts : List Part} (runs : ∀ part ∈ parts, part.RunsOn options inputs) :
    ∃ enough, ∀ fuel, enough ≤ fuel → ∀ part ∈ parts,
      runLoaded fuel options inputs (.ok part.loaded) =
        some (⟨part.out, part.err⟩, part.error.isNone) := by
  induction parts with
  | nil => exact ⟨0, fun _ _ part mem => absurd mem List.not_mem_nil⟩
  | cons part parts ih =>
      obtain ⟨⟨needed, first⟩, rest⟩ := List.forall_mem_cons.1 runs
      obtain ⟨enough, others⟩ := ih rest
      refine ⟨max needed enough, fun fuel within => List.forall_mem_cons.2 ⟨?_, ?_⟩⟩
      · exact runLoaded_of_runProgram (first fuel (Nat.le_trans (Nat.le_max_left needed enough) within))
      · exact others fuel (Nat.le_trans (Nat.le_max_right needed enough) within)

/-- Errors of files come first, and only on standard error; then every part adds what it adds alone. -/
theorem runDirectory_of_parts (failures : List Error) {parts : List Part}
    (runs : ∀ part ∈ parts, runLoaded fuel options inputs (.ok part.loaded) =
      some (⟨part.out, part.err⟩, part.error.isNone)) :
    runDirectory fuel options inputs (failures.map .error ++ (parts.map Part.loaded).map .ok) =
      some (⟨String.join (parts.map Part.out),
          String.join (failures.map errorText) ++ String.join (parts.map Part.err)⟩,
        failures.isEmpty && parts.all (·.error.isNone)) := by
  have silent : String.join (failures.map fun _ => "") = "" := by
    induction failures with
    | nil => rfl
    | cons error failures ih => simpa using ih
  have well : (failures.all fun _ => false) = failures.isEmpty := by
    cases failures <;> rfl
  have told : List.Forall₂ (fun result answer => runLoaded fuel options inputs result = some answer)
      (failures.map .error) (failures.map fun error => (⟨"", errorText error⟩, false)) := by
    rw [List.forall₂_map_left_iff, List.forall₂_map_right_iff, List.forall₂_same]
    intro error _
    rw [runLoaded, ofError_eq]
  have ran : List.Forall₂ (fun result answer => runLoaded fuel options inputs result = some answer)
      ((parts.map Part.loaded).map .ok)
      (parts.map fun part => (⟨part.out, part.err⟩, part.error.isNone)) := by
    rw [List.map_map, List.forall₂_map_left_iff, List.forall₂_map_right_iff, List.forall₂_same]
    exact runs
  rw [runDirectory_eq_some (List.rel_append told ran)]
  simp only [List.map_append, List.map_map, Function.comp_def, String.join_append, List.all_append,
    List.all_map, silent, well, String.empty_append]

end Directories

/-! ### Runs of the command line -/

/-- The options ask for runs of the descriptions in a directory: its path is named, and leads to these
    entries. -/
structure NamesDirectory (lookup : String → Except ReadFault FileTree) (options : Options)
    (source : String) (entries : List (String × FileTree)) : Prop where
  runs : options.list = false
  program_eq : options.program = some source
  found : lookup source = .ok (.directory entries)

/-- The inputs of a run: those among the options, or without any those on standard input. -/
def givenInputs (options : Options) (stdin : String) : List String :=
  if options.inputs.isEmpty then typedInputs stdin else options.inputs

/-- A row of arguments has an answer to what is on standard input: with enough fuel this is it. -/
def Responds (arguments : List String) (lookup : String → Except ReadFault FileTree) (stdin : String)
    (output : Output) : Prop :=
  ∃ enough, ∀ fuel, enough ≤ fuel → respond fuel arguments lookup stdin = some output

section CommandLines

variable {lookup : String → Except ReadFault FileTree} {options : Options} {source : String}
  {entries : List (String × FileTree)} {arguments : List String}

theorem respond_of_namesDirectory (named : NamesDirectory lookup options source entries)
    (asked : Request.ofArguments arguments = .run options) (fuel : Nat) (stdin : String) :
    respond fuel arguments lookup stdin =
      (runDirectory fuel options (givenInputs options stdin)
        ((Library.failures (Library.readEntries source entries)).map .error ++
          (Library.sortByPath (Library.successes (Library.readEntries source entries))).map .ok)).map
        fun answer => ⟨exitCode answer.2, answer.1⟩ := by
  rw [respond, asked, ← Library.loadDirectory_eq]
  simp only [runOptions, named.runs, named.program_eq, named.found, givenInputs, Bool.false_eq_true,
    if_false]
  cases runDirectory fuel options _ (Library.loadDirectory source (.ok (.directory entries))) <;> rfl

/-- What is answered for a directory, part by part. -/
structure Isolates (options : Options) (inputs : List String) (source : String)
    (entries : List (String × FileTree)) (parts : List Part) (output : Output) : Prop where
  /-- There is a part for each description that loads, and for nothing else. -/
  loaded_perm : (parts.map Part.loaded).Perm
    (Library.successes (Library.readEntries source entries))
  /-- The parts stand in the order of the paths, and no path occurs twice if no name does. -/
  path_le : (parts.map Part.loaded).Pairwise (·.path ≤ ·.path)
  path_lt : (entries.map Prod.fst).Nodup → (parts.map Part.loaded).Pairwise (·.path < ·.path)
  /-- A part is what the run of its description alone prints, on all inputs. -/
  runs : ∀ part ∈ parts, part.RunsOn options inputs
  /-- An input that cannot be started ends its part with its error, after what the inputs before it print. -/
  ends : ∀ part ∈ parts,
    RunEnd options part.loaded.program inputs part.printed part.error
  out_eq : output.transcript.out = String.join (parts.map Part.out)
  /-- Each file that does not load is told once, before the parts. -/
  err_eq : output.transcript.err =
    String.join ((Library.failures (Library.readEntries source entries)).map errorText) ++
      String.join (parts.map Part.err)
  exit_eq_one_iff : output.exit = 1 ↔
    (∃ error, .error error ∈ Library.readEntries source entries) ∨
      ∃ part ∈ parts, ∃ input ∈ inputs, ∃ error, Fails part.loaded.program input error
  exit_eq_zero_or : output.exit = 0 ∨ output.exit = 1

/-- The exit code remembers every file that does not load and every input that cannot be started. -/
theorem exitCode_eq_one_iff {inputs : List String} {results : List (Except Error Library.Loaded)}
    {parts : List Part} (ends : ∀ part ∈ parts,
      RunEnd options part.loaded.program inputs part.printed part.error) :
    exitCode ((Library.failures results).isEmpty && parts.all (·.error.isNone)) = 1 ↔
      (∃ error, .error error ∈ results) ∨
        ∃ part ∈ parts, ∃ input ∈ inputs, ∃ error, Fails part.loaded.program input error := by
  have files : (Library.failures results).isEmpty = true ↔ ∀ error, .error error ∉ results := by
    rw [List.isEmpty_iff, List.eq_nil_iff_forall_not_mem]
    exact forall_congr' fun error => not_congr Library.mem_failures
  have runs : parts.all (·.error.isNone) = true ↔ ∀ part ∈ parts, ∀ input ∈ inputs, ∀ error,
      ¬ Fails part.loaded.program input error := by
    rw [List.all_eq_true]
    refine forall₂_congr fun part mem => ?_
    rw [Option.isNone_iff_eq_none]
    exact (ends part mem).error_eq_none_iff
  have code : ∀ well, exitCode well = 1 ↔ ¬ well = true := by decide
  rw [code, Bool.and_eq_true, files, runs, not_and_or]
  push Not
  rfl

/-- A directory isolates failures. If all evaluations end, a run over the descriptions in a directory has an
    answer, whatever its files are: what it prints is made of the parts of the descriptions that load, in
    the order of their paths, each of which is what the run of that description alone prints on all the
    inputs, be they given or typed; a file that does not load adds its error and nothing else; an input
    that cannot be started ends the part of its machine only; and the exit code is 1 if any of these has
    happened, and 0 otherwise. -/
theorem directory_isolates_failures (named : NamesDirectory lookup options source entries)
    (asked : Request.ofArguments arguments = .run options) (stdin : String)
    (ends : ∀ loaded, .ok loaded ∈ Library.readEntries source entries →
      EvaluationsEnd options (givenInputs options stdin) loaded.program) :
    ∃ parts output, Isolates options (givenInputs options stdin) source entries parts output ∧
      Responds arguments lookup stdin output := by
  let results := Library.readEntries source entries
  let inputs := givenInputs options stdin
  let loaded := Library.sortByPath (Library.successes results)
  have perm : loaded.Perm (Library.successes results) := Library.sortByPath_perm _
  have sorted : loaded.Pairwise (·.path ≤ ·.path) := Library.sortByPath_pairwise _
  have wellFormed : ∀ one ∈ loaded, one.program.WellFormed := fun one mem =>
    Library.wellFormed_of_mem_successes (perm.mem_iff.1 mem)
  obtain ⟨parts, loaded_eq, runs⟩ := exists_parts fun one mem =>
    ⟨wellFormed one mem, ends one (Library.mem_successes.1 (perm.mem_iff.1 mem))⟩
  rw [← loaded_eq] at perm sorted wellFormed
  have ended : ∀ part ∈ parts,
      RunEnd options part.loaded.program inputs part.printed part.error := fun part mem =>
    runEnd_of_runs (wellFormed part.loaded (List.mem_map_of_mem mem)) (runs part mem)
  let well := (Library.failures results).isEmpty && parts.all (·.error.isNone)
  let printed : Transcript := ⟨String.join (parts.map Part.out),
    String.join ((Library.failures results).map errorText) ++ String.join (parts.map Part.err)⟩
  obtain ⟨enough, answers⟩ := exists_enough runs
  refine ⟨parts, ⟨exitCode well, printed⟩, ?_, enough, fun fuel within => ?_⟩
  · refine ⟨perm, sorted, fun distinct => ?_, runs, ended, rfl, rfl,
      exitCode_eq_one_iff ended, ?_⟩
    · have differ : (parts.map Part.loaded).Pairwise (·.path ≠ ·.path) :=
        (perm.pairwise_iff Ne.symm).2 (Library.successes_pairwise_ne distinct)
      exact (sorted.and differ).imp fun both => lt_of_le_of_ne both.1 both.2
    · cases well
      · exact .inr rfl
      · exact .inl rfl
  · have shown : Library.sortByPath (Library.successes results) = parts.map Part.loaded :=
      loaded_eq.symm
    rw [respond_of_namesDirectory named asked, shown, runDirectory_of_parts _ (answers fuel within)]
    rfl

end CommandLines

/-! ### Two directories -/

/-- What is found if any path leads to a directory with these entries. -/
def directoryOf (entries : List (String × FileTree)) : String → Except ReadFault FileTree :=
  fun _ => .ok (.directory entries)

/-- The options that ask for runs on these inputs of the descriptions in a directory. -/
def directoryOptions (inputs : List String) : Options := { program := some "d", inputs := inputs }

theorem namesDirectory_directoryOf (entries : List (String × FileTree)) (inputs : List String) :
    NamesDirectory (directoryOf entries) (directoryOptions inputs) "d" entries := ⟨rfl, rfl, rfl⟩

/-- A directory with a file that is no description. -/
def garbled : List (String × FileTree) := [("bad.tm", .file "q".toUTF8)]

/-- What is wrong with the file: a word is missing at its end. -/
def garbledError : Error := .unloadable "d/bad.tm" (.malformed ⟨['q'], 1, 0, .expected .token⟩)

/-- The error of a file that cannot be read as a description shows the place, which takes several lines. -/
theorem garbled_file_told_in_six_lines :
    Library.readEntries "d" garbled = [.error garbledError] ∧
      Responds ["d", "-i", "0"] (directoryOf garbled) "" ⟨1, ⟨"", errorText garbledError⟩⟩ ∧
      (textLines (errorText garbledError).toList).length = 6 := by
  have asked : Request.ofArguments ["d", "-i", "0"] = .run (directoryOptions ["0"]) := by rfl
  have read : Library.readEntries "d" garbled = [.error garbledError] := by rfl
  refine ⟨read, ⟨0, fun fuel _ => ?_⟩, by decide +kernel⟩
  have ran : runDirectory fuel (directoryOptions ["0"]) (givenInputs (directoryOptions ["0"]) "")
      [.error garbledError] = some (⟨"", errorText garbledError⟩, false) := by
    rw [runDirectory, runLoaded, ofError_eq]
    simp [runDirectory, Transcript.append_eq]
  have noMore : (Library.failures [.error garbledError]).map Except.error ++
      (Library.sortByPath (Library.successes [.error garbledError])).map .ok =
        [.error garbledError] := by
    simp [Library.failures, Library.successes, Library.sortByPath]
  rw [respond_of_namesDirectory (namesDirectory_directoryOf garbled ["0"]) asked, read, noMore, ran]
  rfl

/-- A table that takes zeros and accepts after the first. -/
def takesZero : Program where
  name := "untitled"
  states := [⟨"a", true, false, [⟨1, 0, 1, ['0'], ['_'], [.right]⟩]⟩, ⟨"b", false, true, []⟩]
  inputAlphabet := Alphabet.ofList ['0']
  tapeAlphabet := Alphabet.ofList ['0', '_']
  blank := '_'
  tapeCount := 1
  initial := 0

/-- The same table with an input symbol that its tape does not take. -/
def takesOne : Program := { takesZero with inputAlphabet := Alphabet.ofList ['0', '1'] }

/-- A directory with two descriptions, and a file between them that is none. -/
def mixed : List (String × FileTree) :=
  [ ("two.tm", .file "a b\n0 1\n0 _\na\n_\nb\na 0 b _ R".toUTF8),
    ("bad.tm", .file "q".toUTF8),
    ("notes.txt", .file "q".toUTF8),
    ("one.tm", .file "a b\n0\n0 _\na\n_\nb\na 0 b _ R".toUTF8) ]

/-- A description as it is loaded from the directory: the machine is called as its file is. -/
def loadedAs (path : String) (program : Program) : Library.Loaded :=
  ⟨path, program.withName (Path.stem (Path.fileName path))⟩

theorem readEntries_mixed : Library.readEntries "d" mixed =
    [.ok (loadedAs "d/two.tm" takesOne), .error garbledError, .ok (loadedAs "d/one.tm" takesZero)] := by
  rfl

/-- The evaluations of a run end if those of all inputs do. -/
theorem evaluationsEnd_of_forall {options : Options} {inputs : List String} {program : Program}
    (ends : ∀ input ∈ inputs, ∃ fuel evaluation,
      evaluate options.trace fuel options.maxSteps (ofProgram program) input.toList = some evaluation) :
    EvaluationsEnd options inputs program := by
  rintro before input after rfl _
  exact ends input (List.mem_append_right before List.mem_cons_self)

/-- One machine rejects the input that ends the part of the other, the file between them is told, and the
    exit code remembers both. -/
theorem directory_isolates_failures_in_mixed :
    NamesDirectory (directoryOf mixed) (directoryOptions ["1", "0"]) "d" mixed ∧
      Request.ofArguments ["d", "-i", "1", "-i", "0"] = .run (directoryOptions ["1", "0"]) ∧
      ∃ parts output, Isolates (directoryOptions ["1", "0"]) ["1", "0"] "d" mixed parts output ∧
        Responds ["d", "-i", "1", "-i", "0"] (directoryOf mixed) "" output ∧
        (parts.map Part.loaded).Perm [loadedAs "d/two.tm" takesOne, loadedAs "d/one.tm" takesZero] ∧
        Fails (loadedAs "d/two.tm" takesOne).program "1" (.foreignSymbol '1') ∧
        (∀ input ∈ ["1", "0"], ∀ error,
          ¬ Fails (loadedAs "d/one.tm" takesZero).program input error) ∧
        output.exit = 1 := by
  have named := namesDirectory_directoryOf mixed ["1", "0"]
  have asked : Request.ofArguments ["d", "-i", "1", "-i", "0"] =
      .run (directoryOptions ["1", "0"]) := by rfl
  have ends : ∀ loaded, .ok loaded ∈ Library.readEntries "d" mixed →
      EvaluationsEnd (directoryOptions ["1", "0"]) ["1", "0"] loaded.program := by
    intro loaded mem
    rw [readEntries_mixed] at mem
    have listed : loaded = loadedAs "d/two.tm" takesOne ∨ loaded = loadedAs "d/one.tm" takesZero := by
      simpa using mem
    apply evaluationsEnd_of_forall
    rcases listed with rfl | rfl
    · rw [List.forall_mem_cons, List.forall_mem_singleton]
      exact ⟨⟨2, _, by rfl⟩, ⟨2, _, by rfl⟩⟩
    · rw [List.forall_mem_cons, List.forall_mem_singleton]
      exact ⟨⟨2, _, by rfl⟩, ⟨2, _, by rfl⟩⟩
  obtain ⟨parts, output, isolates, responds⟩ := directory_isolates_failures named asked "" ends
  refine ⟨named, asked, parts, output, isolates, responds, ?_, by rfl, ?_, ?_⟩
  · have perm := isolates.loaded_perm
    rw [readEntries_mixed] at perm
    exact perm
  · rw [List.forall_mem_cons, List.forall_mem_singleton]
    exact ⟨fun error fails => (by cases fails), fun error fails => (by cases fails)⟩
  · refine isolates.exit_eq_one_iff.2 (.inl ⟨garbledError, ?_⟩)
    rw [readEntries_mixed]
    exact List.mem_cons_of_mem _ List.mem_cons_self

end CommandLine

end Multitape
