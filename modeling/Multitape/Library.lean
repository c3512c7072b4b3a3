/-
Module: Multitape.Library
Purpose: Machines in files and directories.
Main exports: Library.descriptionExtension, Library.readText, Library.loadFile, Library.readEntries,
  Library.loadDirectory
-/
import Multitape.Description
import Multitape.FileTree

namespace Multitape.Library

/-- The extension of files that hold a description. -/
def descriptionExtension : String := "tm"

/-- The text of what a path leads to. -/
def readText (found : Except ReadFault FileTree) : Except ReadFault String :=
  match found.bind FileTree.bytes with
  | .error fault => .error fault
  | .ok bytes =>
      match String.fromUTF8? bytes with
      | some text => .ok text
      | none => .error .notText

/-- Load the description that a path leads to. The program is called as the file is, without the
    extension. -/
def loadFile (path : String) (found : Except ReadFault FileTree) : Except Error Program :=
  match readText found with
  | .error fault => .error (.unreadableFile path fault)
  | .ok text =>
      (Description.parse text).map (·.withName (Path.stem (Path.fileName path)))

/-- A program with the path of its file. -/
structure Loaded where
  path : String
  program : Program
deriving DecidableEq

/-- What the path of an entry of a directory leads to. If the directory has a long path, the path of the entry
    may be too long. -/
def entryAt (directory : String) (entry : String × FileTree) : Except ReadFault FileTree :=
  if FileTree.pathLimit < (Path.join directory entry.1).utf8ByteSize then .error .nameTooLong
  else entry.2.reached

/-- Whether an entry of a directory should hold a description. Its name has the extension, and it is not
    known to be a directory. -/
def isDescription (directory : String) (entry : String × FileTree) : Bool :=
  Path.extension? entry.1 == some descriptionExtension &&
    !FileTree.leadsToDirectory (entryAt directory entry)

/-- Load an entry of a directory. What is wrong with it is told together with its path. -/
def loadEntry (directory : String) (entry : String × FileTree) : Except Error Loaded :=
  let path := Path.join directory entry.1
  match loadFile path (entryAt directory entry) with
  | .ok program => .ok ⟨path, program⟩
  | .error cause => .error (.unloadable path cause)

/-- The errors among results, in their order. -/
def failures (results : List (Except Error Loaded)) : List Error :=
  results.filterMap fun
    | .error cause => some cause
    | .ok _ => none

/-- The loaded programs among results, in their order. -/
def successes (results : List (Except Error Loaded)) : List Loaded :=
  results.filterMap fun
    | .ok loaded => some loaded
    | .error _ => none

/-- Loaded programs in the order of their paths. -/
def sortByPath (loaded : List Loaded) : List Loaded :=
  loaded.mergeSort fun a b => decide (a.path ≤ b.path)

/-- Errors and programs as the results of a directory: errors come first. -/
def arranged (errors : List Error) (programs : List Loaded) : List (Except Error Loaded) :=
  errors.map .error ++ programs.map .ok

/-- Results in the order in which they are told: errors in the order in which they come up, and programs in the
    order of their paths. -/
def inOrder (results : List (Except Error Loaded)) : List (Except Error Loaded) :=
  arranged (failures results) (sortByPath (successes results))

/-- What comes of the entries of a directory that should hold a description, in the order in which they are
    listed. -/
def readEntries (directory : String) (entries : List (String × FileTree)) :
    List (Except Error Loaded) :=
  (entries.filter (isDescription directory)).map (loadEntry directory)

/-- Load all descriptions in the directory that a path leads to. A listing that breaks off ends with an
    error. -/
def loadDirectory (path : String) : Except ReadFault FileTree → List (Except Error Loaded)
  | .error _ | .ok (.dangling _) => [.error (.noDirectory path)]
  | .ok (.file _) | .ok (.closedFile _) => [.error (.unreadableDirectory path .notADirectory)]
  | .ok (.closedDirectory fault) => [.error (.unreadableDirectory path fault)]
  | .ok (.directory entries) => inOrder (readEntries path entries)
  | .ok (.brokenDirectory entries fault) =>
      inOrder (readEntries path entries ++ [.error (.unlistedEntry fault)])

end Multitape.Library
