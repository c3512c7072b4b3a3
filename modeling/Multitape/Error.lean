/-
Module: Multitape.Error
Purpose: Every reason for which a machine cannot be made or fed, and its wording.
Main exports: Inconsistency, ReadFault, Error, Error.kind, Error.message
-/
import Multitape.Alphabet
import Multitape.Description.Diagnostic

namespace Multitape

/-- Why declarations do not make a machine. -/
inductive Inconsistency where
  | noTapes
  | noStates
  | duplicateState (name : String)
  | wildcardInTapeAlphabet
  | foreignBlank (blank : Char) (alphabet : Alphabet)
  | noInitialState
  | unknownState (name : String)
  | acceptingInitialState (name : String)
  | acceptingSource (name : String)
  | entryCount (source : String) (tapes reads writes directions : Nat)
  | foreignRead (symbol : Char) (source : String) (alphabet : Alphabet)
  | wildcardWritten (source : String)
  | foreignWrite (symbol : Char) (source : String) (alphabet : Alphabet)
deriving DecidableEq

/-- What is told about an inconsistency. -/
def Inconsistency.message : Inconsistency → String
  | noTapes => "A machine needs at least one tape"
  | noStates => "No states defined"
  | duplicateState name => "Duplicate state: " ++ name
  | wildcardInTapeAlphabet =>
      "Symbol '" ++ wildcard.toString ++
        "' is reserved for the wildcard and cannot be in the tape alphabet"
  | foreignBlank blank alphabet =>
      "Blank symbol '" ++ blank.toString ++ "' is not in the tape alphabet " ++ alphabet.render
  | noInitialState => "Missing initial state"
  | unknownState name => "Unknown state: " ++ name
  | acceptingInitialState name => "State " ++ name ++ " is initial and cannot be accepting"
  | acceptingSource name => "State " ++ name ++ " is accepting and cannot have transitions"
  | entryCount source tapes reads writes directions =>
      "Transition from " ++ source ++ " expects " ++ toString tapes ++ " tape(s): read=" ++
        toString reads ++ ", write=" ++ toString writes ++ ", directions=" ++ toString directions
  | foreignRead symbol source alphabet =>
      "Read symbol '" ++ symbol.toString ++ "' in transition from " ++ source ++
        " is not in the tape alphabet " ++ alphabet.render
  | wildcardWritten source =>
      "Transition from " ++ source ++ " writes the wildcard '" ++ wildcard.toString ++ "'"
  | foreignWrite symbol source alphabet =>
      "Write symbol '" ++ symbol.toString ++ "' in transition from " ++ source ++
        " is not in the tape alphabet " ++ alphabet.render

/-- Why a file or a directory cannot be read. -/
inductive ReadFault where
  | missing
  | notADirectory
  | isADirectory
  | nameTooLong
  | zeroInName
  | notText
  | denied
  /-- Another fault, with what the system tells about it. -/
  | other (told : String)
deriving DecidableEq

/-- What the system tells about a file that cannot be read. -/
def ReadFault.message : ReadFault → String
  | missing => "No such file or directory (os error 2)"
  | notADirectory => "Not a directory (os error 20)"
  | isADirectory => "Is a directory (os error 21)"
  | nameTooLong => "File name too long (os error 36)"
  | zeroInName => "file name contained an unexpected NUL byte"
  | notText => "stream did not contain valid UTF-8"
  | denied => "Permission denied (os error 13)"
  | other told => told

/-- Everything that can go wrong. A rejected input is not among it: that is an answer. -/
inductive Error where
  /-- A symbol outside the tape alphabet was put on a tape. -/
  | foreignSymbol (symbol : Char)
  /-- A description cannot be read. -/
  | malformed (diagnostic : Description.Diagnostic)
  /-- Declarations do not fit together. -/
  | inconsistent (cause : Inconsistency)
  /-- A letter stands for no direction. -/
  | unsupportedDirection (letter : Char)
  /-- The catalog has no program at a place. -/
  | noProgramAt (place : Nat)
  /-- The catalog has no program of a name. -/
  | noProgramNamed (name : String)
  /-- A file cannot be read. -/
  | unreadableFile (path : String) (fault : ReadFault)
  /-- There is no directory of a path. -/
  | noDirectory (path : String)
  /-- A directory cannot be read. -/
  | unreadableDirectory (path : String) (fault : ReadFault)
  /-- The listing of a directory breaks off. -/
  | unlistedEntry (fault : ReadFault)
  /-- A description in a directory cannot be loaded. -/
  | unloadable (path : String) (cause : Error)
deriving DecidableEq

/-- The four kinds of errors. Each has its own opening words. -/
inductive ErrorKind where
  | foreignSymbol
  | malformed
  | invalid
  | file
deriving DecidableEq, Repr

/-- The words that come before what is told about an error of a kind. -/
def ErrorKind.opening : ErrorKind → String
  | foreignSymbol => ""
  | malformed => "Description parsing error: "
  | invalid => "Machine validation error: "
  | file => "File error: "

namespace Error

/-- The kind of an error. -/
def kind : Error → ErrorKind
  | foreignSymbol _ => .foreignSymbol
  | malformed _ => .malformed
  | inconsistent _ | unsupportedDirection _ | noProgramAt _ | noProgramNamed _ => .invalid
  | unreadableFile .. | noDirectory _ | unreadableDirectory .. | unlistedEntry _ | unloadable .. => .file

/-- What is told about an error. The error of a description in a directory is told in full. -/
def message : Error → String
  | foreignSymbol symbol => "Symbol '" ++ symbol.toString ++ "' does not belong to the tape alphabet"
  | malformed diagnostic => ErrorKind.malformed.opening ++ diagnostic.render
  | inconsistent cause => ErrorKind.invalid.opening ++ cause.message
  | unsupportedDirection letter =>
      ErrorKind.invalid.opening ++ "Unsupported direction: " ++ letter.toString
  | noProgramAt place =>
      ErrorKind.invalid.opening ++ "Program index " ++ toString place ++ " out of range"
  | noProgramNamed name => ErrorKind.invalid.opening ++ "Program '" ++ name ++ "' not found"
  | unreadableFile path fault =>
      ErrorKind.file.opening ++ "Failed to read file " ++ path ++ ": " ++ fault.message
  | noDirectory path => ErrorKind.file.opening ++ "Directory " ++ path ++ " does not exist"
  | unreadableDirectory path fault =>
      ErrorKind.file.opening ++ "Failed to read directory " ++ path ++ ": " ++ fault.message
  | unlistedEntry fault =>
      ErrorKind.file.opening ++ "Failed to read directory entry: " ++ fault.message
  | unloadable path cause =>
      ErrorKind.file.opening ++ "Failed to load program from " ++ path ++ ": " ++ cause.message

end Error

end Multitape
