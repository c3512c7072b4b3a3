/-
Module: Multitape.FileTree
Purpose: Directories and files as a value, also those that cannot be read, and what a path leads to in it.
Main exports: FileTree, FileTree.bytes, FileTree.lookup, FileTree.ofFiles, Path.fileName, Path.splitName,
  Path.join
-/
import Multitape.Error

namespace Multitape

/-! ### Paths -/

namespace Path

/-- The pieces of a path between slashes. -/
def pieces (path : String) : List String := path.splitOn "/"

/-- The last piece of a path: what stands behind its last slash. -/
def fileName (path : String) : String :=
  String.ofList (path.toList.reverse.takeWhile (· != '/')).reverse

/-- A file name in two, at its last dot. A name without a dot, or with none but at its start, has no
    extension. -/
def splitName (name : String) : String × Option String :=
  let reversed := name.toList.reverse
  match reversed.dropWhile (· != '.') with
  | _ :: c :: before =>
      (String.ofList (c :: before).reverse,
        some (String.ofList (reversed.takeWhile (· != '.')).reverse))
  | _ => (name, none)

/-- A file name without its extension. -/
def stem (name : String) : String := (splitName name).1

/-- What a file name has after its last dot. -/
def extension? (name : String) : Option String := (splitName name).2

/-- The path of a name in a directory. -/
def join (directory name : String) : String :=
  if directory.toList.getLast? = some '/' then directory ++ name else directory ++ "/" ++ name

end Path

/-! ### Trees -/

/-- What stands under a name. -/
inductive FileTree where
  /-- A file with its bytes. -/
  | file (bytes : ByteArray)
  /-- A directory with its entries, in the order in which they are listed. -/
  | directory (entries : List (String × FileTree))
  /-- A file that cannot be read. -/
  | closedFile (fault : ReadFault)
  /-- A directory that can neither be listed nor gone through. -/
  | closedDirectory (fault : ReadFault)
  /-- A directory whose listing breaks off after some entries. -/
  | brokenDirectory (entries : List (String × FileTree)) (fault : ReadFault)
  /-- A name that is listed and leads nowhere: a link to nothing, or an entry that may not be looked at. -/
  | dangling (fault : ReadFault)

namespace FileTree

instance : Inhabited FileTree := ⟨directory []⟩

/-- Whether a directory stands under a name. -/
def isDirectory : FileTree → Bool
  | directory _ | closedDirectory _ | brokenDirectory .. => true
  | file _ | closedFile _ | dangling _ => false

/-- The bytes that are read under a name. -/
def bytes : FileTree → Except ReadFault ByteArray
  | file bytes => .ok bytes
  | directory _ | brokenDirectory .. => .error .isADirectory
  | closedFile fault | closedDirectory fault | dangling fault => .error fault

/-- What is reached under a name. -/
def reached : FileTree → Except ReadFault FileTree
  | dangling fault => .error fault
  | tree => .ok tree

/-- The entries through which a path goes on. -/
def places : FileTree → Except ReadFault (List (String × FileTree))
  | directory entries | brokenDirectory entries _ => .ok entries
  | closedDirectory fault | dangling fault => .error fault
  | file _ | closedFile _ => .error .notADirectory

/-- The entry with a name. -/
def child? (name : String) : List (String × FileTree) → Option FileTree
  | [] => none
  | (other, tree) :: entries => if other = name then some tree else child? name entries

/-- What is known of the directories outside of a tree, the one above it and the root of all: that they are
    directories. -/
def outside : FileTree := directory []

/-- How many bytes a name may have. -/
def nameLimit : Nat := 255

/-- How many bytes a path may have. -/
def pathLimit : Nat := 4095

/-- Follow the pieces of a path. An empty piece stays in a directory, also in one that is closed. A dot stays in
    one that is not, and two dots go back to the one before, or to `outside` if there is none. -/
def follow (before : List FileTree) (tree : FileTree) : List String → Except ReadFault FileTree
  | [] => tree.reached
  | piece :: pieces =>
      if piece = "" ∧ tree.isDirectory then follow before tree pieces
      else match tree.places with
        | .error fault => .error fault
        | .ok entries =>
            if piece = "." then follow before tree pieces
            else if piece = ".." then follow before.tail (before.headD outside) pieces
            else if nameLimit < piece.utf8ByteSize then .error .nameTooLong
            else match child? piece entries with
              | none => .error .missing
              | some next => follow (tree :: before) next pieces

/-- What a path leads to. A path that starts with a slash does not start in the tree. The empty path leads
    nowhere, and no path has a zero character or is longer than a path may be. -/
def lookup (tree : FileTree) (path : String) : Except ReadFault FileTree :=
  if path = "" then .error .missing
  else if path.toList.contains '\x00' then .error .zeroInName
  else if pathLimit < path.utf8ByteSize then .error .nameTooLong
  else follow [] (if path.toList.head? = some '/' then outside else tree) (Path.pieces path)

/-- Whether a path leads to a directory. -/
def leadsToDirectory (found : Except ReadFault FileTree) : Bool := found.toOption.any isDirectory

/-! ### Trees from lists of files -/

/-- Change what is at a place, with the directories on the way. A place where nothing is counts as an empty
    directory. -/
def changeAt (change : FileTree → FileTree) : List String → FileTree → FileTree
  | [], tree => change tree
  | name :: names, tree =>
      let entries := tree.places.toOption.getD []
      let inner := changeAt change names ((child? name entries).getD (directory []))
      if entries.any (·.1 == name) then
        directory (entries.map fun entry => if entry.1 == name then (name, inner) else entry)
      else directory (entries ++ [(name, inner)])

/-- Make the directories that the pieces of a path go through, also those that the path leaves again. The
    names that lead to the last of them come back, the last name first. -/
def makeWay (names : List String) (tree : FileTree) : List String → List String × FileTree
  | [] => (names, tree)
  | piece :: pieces =>
      let names :=
        if piece = "" ∨ piece = "." then names else if piece = ".." then names.tail else piece :: names
      makeWay names (tree.changeAt id names.reverse) pieces

/-- Put bytes at a path. A path that ends in a slash is a directory. -/
def insert (tree : FileTree) (path : String) (bytes : ByteArray) : FileTree :=
  let (names, tree) := tree.makeWay [] (Path.pieces path).dropLast
  let name := Path.fileName path
  if name = "" then tree else tree.changeAt (fun _ => file bytes) (name :: names).reverse

/-- The tree of files that are made one after the other. -/
def ofFiles (files : List (String × ByteArray)) : FileTree :=
  files.foldl (fun tree entry => tree.insert entry.1 entry.2) (directory [])

end FileTree

end Multitape
