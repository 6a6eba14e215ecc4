import DocApi.Project.Scan
import DocApi.Proofs.Keyed
import Mathlib.Data.List.Lex
import Mathlib.Data.List.Nodup
import Mathlib.Data.List.Sort
import Mathlib.Data.String.Basic

/-!
# What a scan finds

A scan walks a tree from its root and leaves out what it meets on the way. Its result is described
without the walk: a file is found exactly if it stands at its path and no name of the path is
hidden, no directory on the way is skipped and the last name is that of a source file. The files are
listed in the strict order of their paths.
-/

namespace DocApi

/-! ## Trees -/

/-- Every directory of a tree lists each of its names once. -/
inductive FileTree.Distinct : FileTree → Prop
  | file (content : ByteArray) : Distinct (.file content)
  | link (target : String) : Distinct (.link target)
  | directory {entries : List (String × FileTree)} (names : (Keyed.keys entries).Nodup)
      (inside : ∀ entry ∈ entries, entry.2.Distinct) : Distinct (.directory entries)

theorem FileTree.at?_directory (entries : List (String × FileTree)) (name : String)
    (names : List String) :
    (FileTree.directory entries).at? (name :: names) =
      (Keyed.at? entries name).bind (·.at? names) := rfl

theorem entriesSourceFiles_eq (entries : List (String × FileTree)) :
    entriesSourceFiles entries = entries.flatMap fun entry => entry.2.sourceFiles entry.1 := by
  induction entries with
  | nil => rfl
  | cons entry entries induction => rw [entriesSourceFiles, induction, List.flatMap_cons]

/-! ## Paths -/

/-- Whether the path from the root of a scan to a file is one that the scan follows. -/
structure Visible (names : List String) : Prop where
  /-- No name is hidden. -/
  shown : ∀ name ∈ names, isHidden name = false
  /-- No directory on the way is skipped. -/
  entered : ∀ name ∈ names.dropLast, name ∉ skippedDirectories
  /-- The file has the name of a source file. -/
  source : ∃ last ∈ names.getLast?, isSourceName last = true

theorem visible_singleton_iff (name : String) :
    Visible [name] ↔ isHidden name = false ∧ isSourceName name = true := by
  constructor
  · rintro ⟨shown, -, last, found, source⟩
    obtain rfl : name = last := by simpa using found
    exact ⟨shown name (by simp), source⟩
  · rintro ⟨shown, source⟩
    exact ⟨by simpa using shown, by simp, name, by simp, source⟩

theorem visible_cons_iff {name : String} {names : List String} (below : names ≠ []) :
    Visible (name :: names) ↔
      isHidden name = false ∧ name ∉ skippedDirectories ∧ Visible names := by
  have last : (name :: names).getLast? = names.getLast? := List.getLast?_cons_of_ne_nil below
  have above : (name :: names).dropLast = name :: names.dropLast :=
    List.dropLast_cons_of_ne_nil below
  constructor
  · rintro ⟨shown, entered, source⟩
    rw [last] at source
    rw [above] at entered
    exact ⟨shown name (by simp), entered name (by simp),
      fun other member => shown other (by simp [member]),
      fun other member => entered other (by simp [member]), source⟩
  · rintro ⟨nameShown, nameEntered, shown, entered, source⟩
    refine ⟨?_, ?_, last ▸ source⟩
    · intro other member
      rcases List.mem_cons.1 member with rfl | later
      · exact nameShown
      · exact shown other later
    · intro other member
      rw [above] at member
      rcases List.mem_cons.1 member with rfl | later
      · exact nameEntered
      · exact entered other later

/-! ## Files found -/

/-- Below a file there is nothing. -/
theorem FileTree.at?_file_eq_some_iff {content : ByteArray} {names : List String}
    {tree : FileTree} :
    (FileTree.file content).at? names = some tree ↔ names = [] ∧ tree = .file content := by
  cases names with
  | nil => simp [at?, eq_comm]
  | cons name names => simp [at?]

/-- A link leads to no file of the scan. -/
theorem FileTree.at?_link_ne_file {target : String} {names : List String} {content : ByteArray} :
    (FileTree.link target).at? names ≠ some (.file content) := by
  cases names <;> simp [at?]

theorem FileTree.ne_nil_of_at?_directory {entries : List (String × FileTree)}
    {names : List String} {content : ByteArray}
    (found : (FileTree.directory entries).at? names = some (.file content)) : names ≠ [] := by
  rintro rfl
  simp [at?] at found

/-- Below the entry `name`, the file stands at its path and the path is visible. -/
def FileTree.Shows (tree : FileTree) (name : String) (file : SourceFile) : Prop :=
  ∃ names, file.names = name :: names ∧ tree.at? names = some (.file file.content) ∧
    Visible (name :: names)

theorem mem_sourceFiles_file (content : ByteArray) (name : String) (file : SourceFile) :
    file ∈ (FileTree.file content).sourceFiles name ↔
      Visible [name] ∧ file = ⟨[name], content⟩ := by
  rw [FileTree.sourceFiles, visible_singleton_iff]
  cases isHidden name <;> cases isSourceName name <;> simp

theorem mem_sourceFiles_directory (entries : List (String × FileTree)) (name : String)
    (file : SourceFile) :
    file ∈ (FileTree.directory entries).sourceFiles name ↔
      (isHidden name = false ∧ name ∉ skippedDirectories) ∧
        ∃ inner ∈ entriesSourceFiles entries, inner.below name = file := by
  rw [FileTree.sourceFiles]
  by_cases skipped : name ∈ skippedDirectories <;> cases isHidden name <;> simp [skipped]

/-- What is found below the entries of a directory is what stands at visible paths below it. -/
theorem mem_entriesSourceFiles_iff {entries : List (String × FileTree)}
    (names : (Keyed.keys entries).Nodup) {file : SourceFile}
    (inside : ∀ entry ∈ entries,
      file ∈ entry.2.sourceFiles entry.1 ↔ entry.2.Shows entry.1 file) :
    file ∈ entriesSourceFiles entries ↔
      (FileTree.directory entries).at? file.names = some (.file file.content) ∧
        Visible file.names := by
  rw [entriesSourceFiles_eq, List.mem_flatMap]
  constructor
  · rintro ⟨entry, member, listed⟩
    obtain ⟨rest, path, found, visible⟩ := (inside entry member).1 listed
    rw [path, FileTree.at?_directory, Keyed.at?_eq_some_of_mem names member]
    exact ⟨found, visible⟩
  · rintro ⟨found, visible⟩
    obtain ⟨first, rest, path⟩ :=
      List.exists_cons_of_ne_nil (FileTree.ne_nil_of_at?_directory found)
    rw [path, FileTree.at?_directory] at found
    rw [path] at visible
    obtain ⟨tree, filed, foundBelow⟩ := Option.bind_eq_some_iff.1 found
    have member := Keyed.mem_of_at? filed
    exact ⟨(first, tree), member, (inside _ member).2 ⟨rest, path, foundBelow, visible⟩⟩

/-- A file is found below an entry exactly if it stands at its path and the path is visible. -/
theorem mem_sourceFiles_iff {tree : FileTree} (distinct : tree.Distinct) (name : String)
    (file : SourceFile) : file ∈ tree.sourceFiles name ↔ tree.Shows name file := by
  induction distinct generalizing name file with
  | file content =>
      rw [mem_sourceFiles_file]
      constructor
      · rintro ⟨visible, rfl⟩
        exact ⟨[], rfl, rfl, visible⟩
      · rintro ⟨names, path, found, visible⟩
        obtain ⟨rfl, same⟩ := FileTree.at?_file_eq_some_iff.1 found
        obtain rfl : file.content = content := by simpa using same
        exact ⟨visible, by rw [← path]⟩
  | link target => simp [FileTree.sourceFiles, FileTree.Shows, FileTree.at?_link_ne_file]
  | directory names inside induction =>
      rw [mem_sourceFiles_directory]
      constructor
      · rintro ⟨⟨shown, entered⟩, inner, listed, rfl⟩
        obtain ⟨found, visible⟩ :=
          (mem_entriesSourceFiles_iff names fun entry member => induction entry member _ _).1 listed
        have below := FileTree.ne_nil_of_at?_directory found
        exact ⟨inner.names, rfl, found, (visible_cons_iff below).2 ⟨shown, entered, visible⟩⟩
      · rintro ⟨rest, path, found, visible⟩
        have below := FileTree.ne_nil_of_at?_directory found
        obtain ⟨shown, entered, visibleBelow⟩ := (visible_cons_iff below).1 visible
        refine ⟨⟨shown, entered⟩, ⟨rest, file.content⟩, ?_, by rw [SourceFile.below, ← path]⟩
        exact (mem_entriesSourceFiles_iff names fun entry member => induction entry member _ _).2
          ⟨found, visibleBelow⟩

/-- A scan finds exactly the files that stand at visible paths. -/
theorem mem_scan_iff {entries : List (String × FileTree)}
    (distinct : (FileTree.directory entries).Distinct) (file : SourceFile) :
    file ∈ scan entries ↔
      (FileTree.directory entries).at? file.names = some (.file file.content) ∧
        Visible file.names := by
  cases distinct with
  | directory names inside =>
      rw [scan, List.mem_mergeSort]
      exact mem_entriesSourceFiles_iff names
        fun entry member => mem_sourceFiles_iff (inside entry member) entry.1 file

/-! ## Their order -/

/-- Paths are compared as lists of names. -/
theorem namesLe_eq_true_iff (left right : List String) :
    namesLe left right = true ↔ left ≤ right := by
  rw [← not_lt]
  fun_induction namesLe left right with
  | case1 right => simp
  | case2 name names => simp
  | case3 left lefts right rights before =>
      simp [List.cons_lt_cons_iff, before.not_gt, before.ne']
  | case4 left lefts right rights _ after => simp [List.cons_lt_cons_iff, after]
  | case5 left lefts right rights before after induction =>
      obtain rfl : left = right := le_antisymm (not_lt.1 after) (not_lt.1 before)
      simp [induction]

/-- No two files below the entries of a directory have the same path. -/
theorem pairwise_names_entriesSourceFiles {entries : List (String × FileTree)}
    (names : (Keyed.keys entries).Nodup) (inside : ∀ entry ∈ entries, entry.2.Distinct)
    (apart : ∀ entry ∈ entries, (entry.2.sourceFiles entry.1).Pairwise
      fun first second => first.names ≠ second.names) :
    (entriesSourceFiles entries).Pairwise fun first second => first.names ≠ second.names := by
  rw [entriesSourceFiles_eq, List.pairwise_flatMap]
  refine ⟨apart, ?_⟩
  refine (List.pairwise_map.1 names).imp_of_mem ?_
  intro entry other member otherMember different first listed second otherListed same
  obtain ⟨rest, path, -, -⟩ := (mem_sourceFiles_iff (inside entry member) _ _).1 listed
  obtain ⟨otherRest, otherPath, -, -⟩ :=
    (mem_sourceFiles_iff (inside other otherMember) _ _).1 otherListed
  rw [path, otherPath] at same
  exact different (List.cons.inj same).1

/-- No two files below an entry have the same path. -/
theorem pairwise_names_sourceFiles {tree : FileTree} (distinct : tree.Distinct) (name : String) :
    (tree.sourceFiles name).Pairwise fun first second => first.names ≠ second.names := by
  induction distinct generalizing name with
  | file content =>
      rw [FileTree.sourceFiles]
      split <;> simp
  | link target => simp [FileTree.sourceFiles]
  | directory names inside induction =>
      have apart := pairwise_names_entriesSourceFiles names inside
        fun entry member => induction entry member entry.1
      rw [FileTree.sourceFiles]
      split
      · exact .nil
      · refine List.pairwise_map.2 (apart.imp ?_)
        intro first second different same
        exact different (List.cons.inj same).2

/-- A scan lists its files in the strict order of their paths. -/
theorem pairwise_names_scan {entries : List (String × FileTree)}
    (distinct : (FileTree.directory entries).Distinct) :
    (scan entries).Pairwise fun first second => first.names < second.names := by
  cases distinct with
  | directory names inside =>
      have apart := pairwise_names_entriesSourceFiles names inside
        fun entry member => pairwise_names_sourceFiles (inside entry member) entry.1
      have sorted : (scan entries).Pairwise fun first second => first.names ≤ second.names := by
        simp only [← namesLe_eq_true_iff]
        refine List.pairwise_mergeSort ?_ ?_ (entriesSourceFiles entries)
        · intro first second third before after
          rw [namesLe_eq_true_iff] at before after ⊢
          exact before.trans after
        · intro first second
          simpa only [Bool.or_eq_true, namesLe_eq_true_iff] using le_total first.names second.names
      have once : (scan entries).Pairwise fun first second => first.names ≠ second.names :=
        (List.mergeSort_perm (entriesSourceFiles entries) _).symm.pairwise apart
          fun different => different.symm
      exact (sorted.and once).imp fun both => lt_of_le_of_ne both.1 both.2

/-- In strict order, the same files are the same list. -/
theorem eq_of_pairwise_names {files others : List SourceFile}
    (sorted : files.Pairwise fun first second => first.names < second.names)
    (sorted' : others.Pairwise fun first second => first.names < second.names)
    (same : ∀ file, file ∈ files ↔ file ∈ others) : files = others := by
  have : Std.Irrefl fun first second : SourceFile => first.names < second.names :=
    ⟨fun file => lt_irrefl file.names⟩
  have : Std.Antisymm fun first second : SourceFile => first.names < second.names :=
    ⟨fun _ _ less more => absurd more less.not_gt⟩
  exact List.Pairwise.eq_of_mem_iff sorted sorted' same

end DocApi
