/-
Module: Multitape.Proofs.DirectoryListing
Purpose: What comes of a directory, however its entries are listed. Each file with the extension of descriptions
  has one result: the program that its text describes, called as the file is, or an error with its path. Programs
  are in the order of the bytes of their paths, so that they do not depend on the order of the listing.
Main exports: Path.splitName_eq_iff, Path.fileName_join, Library.isDescriptionName, Library.descriptionFiles,
  Library.LoadedAs, Library.Listing, Library.forall₂_readEntries, Library.Loads, Library.loads_of_listing,
  Library.loadDirectory_loads_each_file_once
-/
import Multitape.Proofs.ByteOrder
import Multitape.Proofs.DirectoryRuns

namespace Multitape

/-! ### Names of files -/

namespace Path

/-- A name is parted at its last dot, if something stands before that. -/
theorem splitName_eq_iff {name stem extension : String} :
    splitName name = (stem, some extension) ↔
      name = stem ++ "." ++ extension ∧ stem ≠ "" ∧ '.' ∉ extension.toList := by
  unfold splitName
  dsimp only
  constructor
  · intro parted
    have whole := List.takeWhile_append_dropWhile (p := (· != '.')) (l := name.toList.reverse)
    split at parted
    · rename_i dot c before behind
      obtain ⟨rfl, same⟩ := Prod.mk.inj parted
      obtain rfl := Option.some.inj same
      have isDot : dot = '.' := by
        simpa [behind] using List.head?_dropWhile_not (· != '.') name.toList.reverse
      have dotless : ∀ letter ∈ name.toList.reverse.takeWhile (· != '.'), (letter != '.') = true :=
        fun _ => List.mem_takeWhile_imp
      rw [behind, isDot] at whole
      generalize name.toList.reverse.takeWhile (· != '.') = last at whole dotless
      have spelled : name.toList = (c :: before).reverse ++ '.' :: last.reverse := by
        rw [← List.reverse_inj, ← whole]
        simp
      refine ⟨?_, fun nothing => ?_, fun mem => ?_⟩
      · rw [← String.toList_inj, spelled]
        simp
      · simpa using congrArg String.toList nothing
      · rw [String.toList_ofList, List.mem_reverse] at mem
        simpa using dotless _ mem
    · cases parted
  · rintro ⟨rfl, nonempty, dotless⟩
    obtain ⟨c, before, last⟩ : ∃ c before, stem.toList.reverse = c :: before :=
      List.exists_cons_of_ne_nil fun nothing => nonempty (by simpa using nothing)
    have reversed : (stem ++ "." ++ extension).toList.reverse =
        extension.toList.reverse ++ '.' :: c :: before := by
      rw [← last]
      simp
    have behind : ∀ letter ∈ extension.toList.reverse, (letter != '.') = true :=
      fun _ mem => bne_iff_ne.2 (ne_of_mem_of_not_mem (List.mem_reverse.1 mem) dotless)
    rw [reversed, List.dropWhile_append_of_pos behind, List.takeWhile_append_of_pos behind]
    show (String.ofList (c :: before).reverse, _) = _
    rw [← last]
    simp

/-- The last piece of the path of an entry is its name. -/
theorem fileName_join {directory name : String} (single : '/' ∉ name.toList) :
    fileName (join directory name) = name := by
  have behind : ∀ letter ∈ name.toList.reverse, (letter != '/') = true :=
    fun _ mem => bne_iff_ne.2 (ne_of_mem_of_not_mem (List.mem_reverse.1 mem) single)
  have ends : ∃ before : List Char, (join directory name).toList.reverse = name.toList.reverse ++ before ∧
      before.takeWhile (· != '/') = [] := by
    unfold join
    split
    · rename_i slash
      refine ⟨directory.toList.reverse, by simp, ?_⟩
      rw [← List.head?_reverse] at slash
      obtain ⟨others, front⟩ := List.head?_eq_some_iff.1 slash
      rw [front]
      rfl
    · exact ⟨'/' :: directory.toList.reverse, by simp, rfl⟩
  obtain ⟨before, reversed, stops⟩ := ends
  rw [fileName, reversed, List.takeWhile_append_of_pos behind, stops]
  simp

end Path

namespace Library

/-- The names of files that hold a description: they end with the extension, and something stands before it. -/
def isDescriptionName (name : String) : Bool :=
  ['.', 't', 'm'].isSuffixOf name.toList && name != ".tm"

/-- The entries of a directory that should hold a description, with what is read there: those that are called
    so, except for directories. -/
def descriptionFiles (entries : List (String × FileTree)) : List (String × Except ReadFault ByteArray) :=
  (entries.filter fun entry => isDescriptionName entry.1 && !entry.2.isDirectory).map fun entry =>
    (entry.1, entry.2.bytes)

/-- What comes of a file: the program that its text describes, called so that its name with the extension is the
    name of the file; or an error with its path, if it cannot be read, its bytes are no text or the text
    describes none. -/
inductive LoadedAs (directory : String) :
    String × Except ReadFault ByteArray → Except Error Loaded → Prop where
  | program {name text : String} {bytes : ByteArray} {parsed program : Program}
      (isText : String.fromUTF8? bytes = some text) (parses : Description.parse text = .ok parsed)
      (renamed : program = parsed.withName program.name) (called : program.name ++ ".tm" = name) :
      LoadedAs directory (name, .ok bytes) (.ok ⟨Path.join directory name, program⟩)
  | malformed {name text : String} {bytes : ByteArray} {cause : Error}
      (isText : String.fromUTF8? bytes = some text) (fails : Description.parse text = .error cause) :
      LoadedAs directory (name, .ok bytes) (.error (.unloadable (Path.join directory name) cause))
  | garbled {name : String} {bytes : ByteArray} (noText : String.fromUTF8? bytes = none) :
      LoadedAs directory (name, .ok bytes)
        (.error (.unloadable (Path.join directory name)
          (.unreadableFile (Path.join directory name) .notText)))
  | unreadable (name : String) (fault : ReadFault) :
      LoadedAs directory (name, .error fault)
        (.error (.unloadable (Path.join directory name)
          (.unreadableFile (Path.join directory name) fault)))

/-- Entries as they are listed for a directory: no name occurs twice, a name is one piece of a path, and no path
    is too long. -/
structure Listing (directory : String) (entries : List (String × FileTree)) : Prop where
  distinct : (entries.map Prod.fst).Nodup
  single : ∀ entry ∈ entries, '/' ∉ entry.1.toList
  reachable : ∀ entry ∈ entries,
    (Path.join directory entry.1).utf8ByteSize ≤ FileTree.pathLimit

/-- What comes of a directory: errors and then programs, one for each file that should hold a description, and
    the programs in the order of their paths. -/
structure Loads (directory : String) (entries : List (String × FileTree)) (errors : List Error)
    (programs : List Loaded) : Prop where
  result_eq : loadDirectory directory (.ok (.directory entries)) = arranged errors programs
  each : ∃ results, List.Forall₂ (LoadedAs directory) (descriptionFiles entries) results ∧
    (arranged errors programs).Perm results
  kind_eq : ∀ error ∈ errors, error.kind = .file
  ascending : programs.Pairwise fun first second => Text.bytes first.path < Text.bytes second.path
  names_ne : programs.Pairwise (·.program.name ≠ ·.program.name)

variable {directory : String} {entries others : List (String × FileTree)}

theorem isDescriptionName_iff {name : String} :
    isDescriptionName name = true ↔ Path.extension? name = some descriptionExtension := by
  have parted : Path.extension? name = some "tm" ↔ ∃ stem, Path.splitName name = (stem, some "tm") := by
    rw [Path.extension?]
    exact ⟨fun same => ⟨_, by rw [← same]⟩, fun ⟨stem, same⟩ => by rw [same]⟩
  rw [descriptionExtension, parted, isDescriptionName, Bool.and_eq_true, bne_iff_ne,
    List.isSuffixOf_iff_suffix]
  simp only [Path.splitName_eq_iff]
  constructor
  · rintro ⟨⟨stem, ends⟩, other⟩
    refine ⟨String.ofList stem, ?_, fun nothing => ?_, by decide⟩
    · rw [← String.toList_inj, ← ends]
      simp
    · obtain rfl : stem = [] := by simpa using nothing
      exact other (String.toList_inj.1 ends.symm)
  · rintro ⟨stem, rfl, nonempty, -⟩
    refine ⟨⟨stem.toList, by simp⟩, fun same => nonempty ?_⟩
    simpa using congrArg String.toList same

/-- A name is its stem with the extension, if it is that of a description. -/
theorem stem_append {name : String} (described : isDescriptionName name = true) :
    Path.stem name ++ ".tm" = name := by
  have parted : Path.splitName name = (Path.stem name, some "tm") :=
    Prod.ext rfl (isDescriptionName_iff.1 described)
  conv_rhs => rw [(Path.splitName_eq_iff.1 parted).1, String.append_assoc]
  rfl

/-! ### Entries -/

theorem Listing.perm (listing : Listing directory entries) (perm : others.Perm entries) :
    Listing directory others where
  distinct := (perm.map Prod.fst).nodup_iff.2 listing.distinct
  single entry mem := listing.single entry (perm.mem_iff.1 mem)
  reachable entry mem := listing.reachable entry (perm.mem_iff.1 mem)

section Entries

variable {name : String} {tree : FileTree}

theorem entryAt_of_reachable
    (reachable : (Path.join directory name).utf8ByteSize ≤ FileTree.pathLimit) :
    entryAt directory (name, tree) = tree.reached :=
  if_neg (Nat.not_lt.2 reachable)

/-- What is no description by its name is none, and neither is a directory. -/
theorem isDescription_eq
    (reachable : (Path.join directory name).utf8ByteSize ≤ FileTree.pathLimit) :
    isDescription directory (name, tree) = (isDescriptionName name && !tree.isDirectory) := by
  have kind : FileTree.leadsToDirectory tree.reached = tree.isDirectory := by
    cases tree <;> rfl
  have called : (Path.extension? name == some descriptionExtension) = isDescriptionName name := by
    rw [Bool.eq_iff_iff, beq_iff_eq, isDescriptionName_iff]
  rw [isDescription, entryAt_of_reachable reachable, kind, called]

theorem loadedAs_loadEntry (described : isDescriptionName name = true) (single : '/' ∉ name.toList)
    (reachable : (Path.join directory name).utf8ByteSize ≤ FileTree.pathLimit) :
    LoadedAs directory (name, tree.bytes) (loadEntry directory (name, tree)) := by
  have read : tree.reached.bind FileTree.bytes = tree.bytes := by
    cases tree <;> rfl
  unfold loadEntry
  dsimp only
  rw [entryAt_of_reachable reachable, loadFile, readText, read, Path.fileName_join single]
  cases tree.bytes with
  | error fault => exact .unreadable name fault
  | ok bytes =>
      dsimp only
      cases isText : String.fromUTF8? bytes with
      | none => exact .garbled isText
      | some text =>
          dsimp only
          cases parses : Description.parse text with
          | error cause => exact .malformed isText parses
          | ok parsed => exact .program isText parses rfl (stem_append described)

end Entries

/-- An entry that should hold a description is one that is called so and is no directory. -/
theorem filter_isDescription (listing : Listing directory entries) :
    entries.filter (isDescription directory) =
      entries.filter fun entry => isDescriptionName entry.1 && !entry.2.isDirectory :=
  List.filter_congr fun entry mem => isDescription_eq (listing.reachable entry mem)

/-- What comes of an entry that should hold a description. -/
theorem loadedAs_of_mem {entry : String × FileTree} (listing : Listing directory entries)
    (mem : entry ∈ entries.filter (isDescription directory)) :
    LoadedAs directory (entry.1, entry.2.bytes) (loadEntry directory entry) := by
  rw [filter_isDescription listing] at mem
  obtain ⟨listed, described⟩ := List.mem_filter.1 mem
  exact loadedAs_loadEntry (Bool.and_eq_true_iff.1 described).1 (listing.single entry listed)
    (listing.reachable entry listed)

/-- Every file that should hold a description has its result, and nothing else has one. -/
theorem forall₂_readEntries (listing : Listing directory entries) :
    List.Forall₂ (LoadedAs directory) (descriptionFiles entries) (readEntries directory entries) := by
  rw [descriptionFiles, readEntries, ← filter_isDescription listing, List.forall₂_map_left_iff,
    List.forall₂_map_right_iff, List.forall₂_same]
  exact fun entry mem => loadedAs_of_mem listing mem

/-! ### Results -/

/-- Results are errors and programs. -/
theorem failures_append_successes_perm (results : List (Except Error Loaded)) :
    (arranged (failures results) (successes results)).Perm results := by
  induction results with
  | nil => exact .refl _
  | cons result results ih =>
      cases result with
      | error error => exact ih.cons _
      | ok loaded => exact List.perm_middle.trans (ih.cons _)

theorem kind_of_mem_failures {error : Error} (mem : error ∈ failures (readEntries directory entries)) :
    error.kind = .file := by
  obtain ⟨entry, -, failed⟩ := List.mem_map.1 (mem_failures.1 mem)
  unfold loadEntry at failed
  dsimp only at failed
  split at failed
  · cases failed
  · cases failed
    rfl

/-- The paths of programs ascend strictly. -/
theorem sortByPath_pairwise_lt (directory : String) (distinct : (entries.map Prod.fst).Nodup) :
    (sortByPath (successes (readEntries directory entries))).Pairwise (·.path < ·.path) := by
  have differ : (sortByPath (successes (readEntries directory entries))).Pairwise (·.path ≠ ·.path) :=
    ((sortByPath_perm _).pairwise_iff Ne.symm).2 (successes_pairwise_ne distinct)
  exact ((sortByPath_pairwise _).and differ).imp fun both => lt_of_le_of_ne both.1 both.2

/-- A program that loads is called as its file. -/
theorem path_of_mem_successes {loaded : Loaded} (listing : Listing directory entries)
    (mem : loaded ∈ successes (readEntries directory entries)) :
    loaded.path = Path.join directory (loaded.program.name ++ ".tm") := by
  obtain ⟨entry, kept, found⟩ := List.mem_map.1 (mem_successes.1 mem)
  have made := loadedAs_of_mem listing kept
  rw [found] at made
  generalize entry.2.bytes = read at made
  cases made with
  | program isText parses renamed called => rw [called]

theorem loads_of_listing (listing : Listing directory entries) :
    Loads directory entries (failures (readEntries directory entries))
      (sortByPath (successes (readEntries directory entries))) where
  result_eq := loadDirectory_eq directory entries
  each := ⟨_, forall₂_readEntries listing,
    (((sortByPath_perm _).map _).append_left _).trans (failures_append_successes_perm _)⟩
  kind_eq _ := kind_of_mem_failures
  ascending := (sortByPath_pairwise_lt directory listing.distinct).imp Text.bytes_lt_iff.2
  names_ne := by
    have differ := (sortByPath_pairwise_lt directory listing.distinct).imp ne_of_lt
    refine differ.imp_of_mem fun {first second} firstMem secondMem paths names => paths ?_
    rw [path_of_mem_successes listing ((sortByPath_perm _).mem_iff.1 firstMem), names,
      path_of_mem_successes listing ((sortByPath_perm _).mem_iff.1 secondMem)]

theorem readEntries_perm (directory : String) (perm : others.Perm entries) :
    (readEntries directory others).Perm (readEntries directory entries) :=
  (perm.filter _).map _

/-- In whatever order the entries of a directory are listed, every file that should hold a description has one
    result: it is loaded under its own name, or told with its path. Another order gives the same programs in the
    same order, and the same errors. -/
theorem loadDirectory_loads_each_file_once (listing : Listing directory entries) :
    ∃ errors programs, Loads directory entries errors programs ∧
      ∀ others, others.Perm entries →
        ∃ otherErrors, otherErrors.Perm errors ∧ Loads directory others otherErrors programs := by
  refine ⟨_, _, loads_of_listing listing, fun others perm => ?_⟩
  have results := readEntries_perm directory perm
  have loads := loads_of_listing (listing.perm perm)
  have same : sortByPath (successes (readEntries directory others)) =
      sortByPath (successes (readEntries directory entries)) := by
    refine List.Perm.eq_of_pairwise (fun a b _ _ lower upper => absurd upper (lt_asymm lower))
      (sortByPath_pairwise_lt directory (listing.perm perm).distinct)
      (sortByPath_pairwise_lt directory listing.distinct) ?_
    exact (sortByPath_perm _).trans ((results.filterMap _).trans (sortByPath_perm _).symm)
  rw [same] at loads
  exact ⟨_, results.filterMap _, loads⟩

/-- The bytes of a description with one rule. -/
def oneRule : ByteArray := "a b\n0\n0 _\na\n_\nb\na 0 b _ R".toUTF8

/-- A directory with names of several dots, with dots at their start and with another spelling of the extension,
    directories that are called as a description is, a file that holds no text and one that describes nothing,
    one that may not be read, and a link to nothing. -/
def crowded : List (String × FileTree) :=
  [ ("b.tm", .file ⟨#[255]⟩), ("x.y.tm", .file oneRule), (".tm", .file oneRule),
    ("A.TM", .file oneRule), ("d.tm", .directory [("e.tm", .file oneRule)]),
    (".a.tm", .file oneRule), ("c.tm", .file "q".toUTF8), ("notes", .file oneRule),
    ("f.tm", .closedFile .denied), ("g.tm", .closedDirectory .denied), ("h.tm", .dangling .missing) ]

theorem listing_crowded : Listing "d" crowded where
  distinct := by decide
  single := by decide
  reachable := by decide

theorem loadDirectory_loads_each_file_of_crowded :
    Listing "d" crowded ∧ ∃ errors programs, Loads "d" crowded errors programs ∧
      ∀ others, others.Perm crowded →
        ∃ otherErrors, otherErrors.Perm errors ∧ Loads "d" others otherErrors programs :=
  ⟨listing_crowded, loadDirectory_loads_each_file_once listing_crowded⟩

example : (descriptionFiles crowded).map Prod.fst = ["b.tm", "x.y.tm", ".a.tm", "c.tm", "f.tm", "h.tm"] := by
  decide

end Library

end Multitape
