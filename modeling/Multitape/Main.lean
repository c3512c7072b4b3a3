/-
Module: Multitape.Main
Purpose: The command line as a program: it looks at files, reads standard input and prints.
Main exports: main
-/
import Multitape.CommandLine

namespace Multitape.CommandLine

/-- What an error of the system means for a path. -/
def faultOf : IO.Error → ReadFault
  | .noFileOrDirectory .. => .missing
  | .permissionDenied .. => .denied
  | .inappropriateType .. => .notADirectory
  | error => .other error.toString

/-- The file of a path that leads somewhere. -/
def lookInto (path : String) : IO FileTree := do
  try return .file (← IO.FS.readBinFile path)
  catch error => return .closedFile (faultOf error)

/-- What stands under a path. The entries of a directory are not looked at. -/
def lookAt (path : String) : IO FileTree := do
  try
    match (← ((← IO.currentDir) / path).metadata).type with
    | .dir => return .directory []
    | _ => lookInto path
  catch error => return .dangling (faultOf error)

/-- What a path leads to. A directory is listed with the files in it; what its subdirectories hold is of
    no interest. -/
def look (source : String) : IO (Except ReadFault FileTree) := do
  if source = "" then return .error .missing
  match ← lookAt source with
  | .directory _ =>
      try
        let entries ← ((← IO.currentDir) / source).readDir
        let listed ← entries.toList.mapM fun entry => do
          return (entry.fileName, ← lookAt entry.path.toString)
        return .ok (.directory listed)
      catch error => return .ok (.closedDirectory (faultOf error))
  | tree => return tree.reached

/-- Everything that is left on a stream. -/
partial def readAll (stream : IO.FS.Stream) (before : String) : IO String := do
  let line ← stream.getLine
  if line.isEmpty then return before else readAll stream (before ++ line)

/-- The answer to a row of arguments, with more and more steps until there is one. For a machine that never
    halts there is none. -/
partial def respondAtLast (fuel : Nat) (arguments : List String)
    (lookup : String → Except ReadFault FileTree) (stdin : String) : IO Output :=
  match respond fuel arguments lookup stdin with
  | some output => return output
  | none => respondAtLast (2 * fuel) arguments lookup stdin

/-- Whether options leave their inputs to standard input. -/
def Options.readsInputs (options : Options) : Bool :=
  options.inputs.isEmpty && options.program.isSome && !options.list

/-- Respond to arguments, looking only at what they name. -/
def respondTo (arguments : List String) : IO Output := do
  let options := match Request.ofArguments arguments with
    | .run options => options
    | _ => {}
  let stdin ← if options.readsInputs then readAll (← IO.getStdin) "" else pure ""
  let found ← match options.program with
    | some source => look source
    | none => pure (.error .missing)
  respondAtLast 1024 arguments (fun _ => found) stdin

end Multitape.CommandLine

/-- Print what the command line answers, and leave with its exit code. -/
def main (arguments : List String) : IO UInt32 := do
  let output ← Multitape.CommandLine.respondTo arguments
  (← IO.getStdout).putStr output.transcript.out
  (← IO.getStderr).putStr output.transcript.err
  return output.exit.toUInt32
