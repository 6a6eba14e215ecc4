import DocApi.Project.Generate
import DocApi.Proofs.Project.Scan

/-!
# Files that do not count

A project is described by the source files that can be loaded. Hidden files, links, files with
another ending, files that are no text or no source, and whatever stands below a hidden or skipped
directory can be added anywhere in its tree: the description stays the same, with the same number of
parsed files, and so does the error when there is none.
-/

namespace DocApi

/-! ## Added entries -/

/-- What stands at a path below the root of a project and does not count. -/
inductive FileTree.Uncounted : (names : List String) → FileTree → Prop
  /-- A hidden entry, or anything below a hidden directory. -/
  | hidden {names : List String} {tree : FileTree} (name : String) (member : name ∈ names)
      (dotted : isHidden name = true) : Uncounted names tree
  /-- Anything below a directory that is never looked into. -/
  | skipped {names : List String} {tree : FileTree} (name : String) (above : name ∈ names.dropLast)
      (listed : name ∈ skippedDirectories) : Uncounted names tree
  | link (names : List String) (target : String) : Uncounted names (.link target)
  /-- A directory counts through the files below it only. -/
  | directory (names : List String) (entries : List (String × FileTree)) :
      Uncounted names (.directory entries)
  /-- A file whose name does not end like that of a source file. -/
  | otherEnding (above : List String) (name : String) (content : ByteArray)
      (ending : isSourceName name = false) : Uncounted (above ++ [name]) (.file content)
  /-- A file that is no text or no source. -/
  | unloadable (names : List String) (content : ByteArray) (error : LoadError)
      (failed : SourceFile.load ⟨names, content⟩ = .error error) : Uncounted names (.file content)

/-- The same file, the same link, or a directory where there was one. -/
inductive FileTree.Keeps : FileTree → FileTree → Prop
  | file (content : ByteArray) : Keeps (.file content) (.file content)
  | link (target : String) : Keeps (.link target) (.link target)
  | directory (before after : List (String × FileTree)) :
      Keeps (.directory before) (.directory after)

/-- A tree with new entries, none of which counts. -/
structure FileTree.Padded (before after : FileTree) : Prop where
  /-- What was there is there. -/
  kept : ∀ names old, before.at? names = some old →
    ∃ new, after.at? names = some new ∧ old.Keeps new
  /-- What was not there does not count. -/
  added : ∀ names new, before.at? names = none → after.at? names = some new → Uncounted names new

/-! ## The files that count -/

/-- Whether a source file can be read and parsed. -/
def SourceFile.isLoadable (file : SourceFile) : Bool := file.load.isOk

theorem parsedFiles_filter (files : List SourceFile) :
    parsedFiles (files.filter SourceFile.isLoadable) = parsedFiles files := by
  simp only [parsedFiles, List.filterMap_filter]
  refine List.filterMap_congr fun file _ => ?_
  cases loaded : file.load <;> simp [SourceFile.isLoadable, loaded, Except.isOk, Except.toBool]

/-- What stands at a visible path and can be loaded counts. -/
theorem FileTree.Uncounted.isLoadable {names : List String} {content : ByteArray}
    (uncounted : Uncounted names (.file content)) (visible : Visible names) :
    SourceFile.isLoadable ⟨names, content⟩ = false := by
  cases uncounted with
  | hidden name member dotted =>
      rw [visible.shown name member] at dotted
      cases dotted
  | skipped name above listed => exact absurd listed (visible.entered name above)
  | otherEnding above name _ ending =>
      obtain ⟨last, found, source⟩ := visible.source
      obtain rfl : name = last := by simpa using found
      rw [ending] at source
      cases source
  | unloadable _ _ error failed => rw [SourceFile.isLoadable, failed]; rfl

namespace FileTree.Padded

variable {before after : List (String × FileTree)}

/-- The files that count are the same with and without the new entries. -/
theorem mem_scan_iff (padded : Padded (.directory before) (.directory after))
    (distinct : (FileTree.directory before).Distinct)
    (distinct' : (FileTree.directory after).Distinct) {file : SourceFile}
    (loads : file.isLoadable = true) : file ∈ scan after ↔ file ∈ scan before := by
  rw [DocApi.mem_scan_iff distinct, DocApi.mem_scan_iff distinct']
  refine and_congr_left fun visible => ⟨fun found => ?_, fun found => ?_⟩
  · cases old : (FileTree.directory before).at? file.names with
    | none =>
        have refused := (padded.added _ _ old found).isLoadable visible
        rw [loads] at refused
        cases refused
    | some tree =>
        obtain ⟨new, found', keeps⟩ := padded.kept _ _ old
        rw [found, Option.some.injEq] at found'
        subst found'
        cases keeps
        rfl
  · obtain ⟨new, found', keeps⟩ := padded.kept _ _ found
    cases keeps
    exact found'

/-- Both scans list the files that count in the same order. -/
theorem filter_scan (padded : Padded (.directory before) (.directory after))
    (distinct : (FileTree.directory before).Distinct)
    (distinct' : (FileTree.directory after).Distinct) :
    (scan after).filter SourceFile.isLoadable = (scan before).filter SourceFile.isLoadable := by
  refine eq_of_pairwise_names ((pairwise_names_scan distinct').filter _)
    ((pairwise_names_scan distinct).filter _) fun file => ?_
  rw [List.mem_filter, List.mem_filter]
  exact and_congr_left fun loads => padded.mem_scan_iff distinct distinct' loads

/-- The same files are parsed. -/
theorem parsedFiles_scan (padded : Padded (.directory before) (.directory after))
    (distinct : (FileTree.directory before).Distinct)
    (distinct' : (FileTree.directory after).Distinct) :
    parsedFiles (scan after) = parsedFiles (scan before) := by
  rw [← parsedFiles_filter, padded.filter_scan distinct distinct', parsedFiles_filter]

end FileTree.Padded

/-- Entries that do not count can be added to the tree of a project anywhere: it has the same
description, with the same number of parsed files, or it ends with the same error. -/
theorem generate_of_padded_tree {workspace other : Workspace} {path : String}
    {tree padded : FileTree} (found : workspace.at? path = some tree)
    (found' : other.at? path = some padded) (distinct : tree.Distinct) (distinct' : padded.Distinct)
    (added : tree.Padded padded) :
    (other.generate path).map (fun generation => (generation.document, generation.parsed)) =
      (workspace.generate path).map
        (fun generation => (generation.document, generation.parsed)) := by
  obtain ⟨new, rooted, keeps⟩ := added.kept [] tree rfl
  obtain rfl : padded = new := by simpa [FileTree.at?] using rooted
  cases keeps with
  | file content => simp only [Workspace.generate, Workspace.scan, found, found']
  | link target => simp only [Workspace.generate, Workspace.scan, found, found']
  | directory before after =>
      have same := added.parsedFiles_scan distinct distinct'
      simp only [Workspace.generate, Workspace.scan, found, found', describe, same]
      split <;> rfl

/-! ## A project with clutter -/

/-- A source file that gives a project its title. -/
def titleFile : FileTree := .file "//! !info Pets 1".toUTF8

/-- The tree of a project with one file. -/
def titledTree : FileTree := .directory [("main.rs", titleFile)]

/-- The same tree with copies of the file where they do not count, a file that is no text, one with
another ending and a link. -/
def clutteredTree : FileTree :=
  .directory [(".git", .directory [("main.rs", titleFile)]), ("bytes.rs", .file ⟨#[0xff]⟩),
    ("main.rs", titleFile), ("notes.txt", titleFile),
    ("target", .directory [("main.rs", titleFile)]), ("twin.rs", .link "main.rs")]

/-- A tree in the directory `pets`. -/
def petsWorkspace (tree : FileTree) : Workspace := ⟨.directory [("pets", tree)], []⟩

theorem at?_petsWorkspace (entries : List (String × FileTree)) :
    (petsWorkspace (.directory entries)).at? "pets" = some (.directory entries) := by
  have parts : Path.parts "pets" = ["pets"] := by decide
  have start : (petsWorkspace (.directory entries)).start "pets" = [] := rfl
  rw [Workspace.at?, start, parts]
  simp [petsWorkspace, FileTree.locate?, FileTree.at?, FileTree.entries?, Keyed.at?]

theorem distinct_titledTree : titledTree.Distinct := by
  have title : titleFile.Distinct := .file _
  exact .directory (by decide) (by simp [title])

theorem distinct_clutteredTree : clutteredTree.Distinct := by
  have title : titleFile.Distinct := .file _
  have copy : (FileTree.directory [("main.rs", titleFile)]).Distinct := distinct_titledTree
  exact .directory (by decide)
    (by simp [title, copy, FileTree.Distinct.file, FileTree.Distinct.link])

theorem padded_clutteredTree : titledTree.Padded clutteredTree where
  kept names old found := by
    cases names with
    | nil =>
        obtain rfl : titledTree = old := by simpa [FileTree.at?] using found
        exact ⟨clutteredTree, rfl, .directory _ _⟩
    | cons name rest =>
        rw [titledTree, FileTree.at?_directory] at found
        obtain ⟨tree, filed, below⟩ := Option.bind_eq_some_iff.1 found
        obtain ⟨rfl, rfl⟩ : name = "main.rs" ∧ tree = titleFile := by
          simpa using Keyed.mem_of_at? filed
        obtain ⟨rfl, rfl⟩ := FileTree.at?_file_eq_some_iff.1 below
        exact ⟨titleFile, rfl, .file _⟩
  added names new missing found := by
    cases names with
    | nil => cases missing
    | cons name rest =>
        rw [clutteredTree, FileTree.at?_directory] at found
        obtain ⟨tree, filed, below⟩ := Option.bind_eq_some_iff.1 found
        have member := Keyed.mem_of_at? filed
        simp only [List.mem_cons, Prod.mk.injEq, List.not_mem_nil, or_false] at member
        rcases member with ⟨rfl, rfl⟩ | ⟨rfl, rfl⟩ | ⟨rfl, rfl⟩ | ⟨rfl, rfl⟩ | ⟨rfl, rfl⟩ |
          ⟨rfl, rfl⟩
        · exact .hidden ".git" List.mem_cons_self (by decide)
        · obtain ⟨rfl, rfl⟩ := FileTree.at?_file_eq_some_iff.1 below
          exact .unloadable _ _ .unreadable rfl
        · obtain ⟨rfl, rfl⟩ := FileTree.at?_file_eq_some_iff.1 below
          cases missing
        · obtain ⟨rfl, rfl⟩ := FileTree.at?_file_eq_some_iff.1 below
          exact .otherEnding [] "notes.txt" _ (by decide)
        · cases rest with
          | nil =>
              obtain rfl := Option.some.inj below
              exact .directory _ _
          | cons inner rest => exact .skipped "target" (by simp) (by decide)
        · cases rest with
          | nil =>
              obtain rfl := Option.some.inj below
              exact .link _ _
          | cons inner rest => cases below

/-- The clutter leaves the description of the project as it is. -/
theorem generate_of_clutteredTree :
    (petsWorkspace titledTree).at? "pets" = some titledTree ∧
      (petsWorkspace clutteredTree).at? "pets" = some clutteredTree ∧
      titledTree.Distinct ∧ clutteredTree.Distinct ∧ titledTree.Padded clutteredTree ∧
      ((petsWorkspace clutteredTree).generate "pets").map
          (fun generation => (generation.document, generation.parsed)) =
        ((petsWorkspace titledTree).generate "pets").map
          (fun generation => (generation.document, generation.parsed)) := by
  have found : (petsWorkspace titledTree).at? "pets" = some titledTree := at?_petsWorkspace _
  have found' : (petsWorkspace clutteredTree).at? "pets" = some clutteredTree :=
    at?_petsWorkspace _
  exact ⟨found, found', distinct_titledTree, distinct_clutteredTree, padded_clutteredTree,
    generate_of_padded_tree found found' distinct_titledTree distinct_clutteredTree
      padded_clutteredTree⟩

end DocApi
