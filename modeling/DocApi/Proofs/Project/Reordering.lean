import DocApi.Proofs.Project.Padding

/-!
# The order of directory entries

A file system lists the entries of a directory in any order. A scan does not depend on it: the files
are those that stand at visible paths, and they are listed in the order of their paths. That order
compares names, not texts, so that all files below a directory come before the source file that is
named after it.
-/

namespace DocApi

/-! ## Reordered trees -/

/-- The same tree, with the entries of some of its directories in another order. -/
inductive FileTree.Reordered : FileTree → FileTree → Prop
  | refl (tree : FileTree) : Reordered tree tree
  /-- The entries of the directory itself. -/
  | permute {listed shuffled : List (String × FileTree)} (perm : listed.Perm shuffled) :
      Reordered (.directory listed) (.directory shuffled)
  /-- The entries of a directory below an entry. -/
  | inside (before : List (String × FileTree)) (name : String) {tree other : FileTree}
      (after : List (String × FileTree)) (reordered : Reordered tree other) :
      Reordered (.directory (before ++ (name, tree) :: after))
        (.directory (before ++ (name, other) :: after))
  | trans {first second third : FileTree} (left : Reordered first second)
      (right : Reordered second third) : Reordered first third

namespace FileTree.Reordered

variable {tree other : FileTree}

theorem distinct (reordered : tree.Reordered other) (distinct : tree.Distinct) :
    other.Distinct := by
  induction reordered with
  | refl tree => exact distinct
  | permute perm =>
      cases distinct with
      | directory names below =>
          exact .directory ((perm.map Prod.fst).nodup names)
            fun entry member => below entry (perm.mem_iff.2 member)
  | inside before name after reordered induction =>
      cases distinct with
      | directory names below =>
          rw [List.forall_mem_append, List.forall_mem_cons] at below
          refine .directory (by simpa [Keyed.keys] using names) ?_
          rw [List.forall_mem_append, List.forall_mem_cons]
          exact ⟨below.1, induction below.2.1, below.2.2⟩
  | trans left right first second => exact second (first distinct)

/-- Every file stays where it is. -/
theorem at?_file_iff (reordered : tree.Reordered other) (distinct : tree.Distinct)
    (names : List String) (content : ByteArray) :
    tree.at? names = some (.file content) ↔ other.at? names = some (.file content) := by
  induction reordered generalizing names with
  | refl tree => exact Iff.rfl
  | permute perm =>
      cases distinct with
      | directory distinctNames below =>
          cases names with
          | nil => simp [FileTree.at?]
          | cons name names =>
              rw [at?_directory, at?_directory, Keyed.at?_of_perm distinctNames perm]
  | inside before name after reordered induction =>
      cases distinct with
      | directory distinctNames below =>
          have inner := (List.forall_mem_cons.1 (List.forall_mem_append.1 below).2).1
          cases names with
          | nil => simp [FileTree.at?]
          | cons asked names =>
              rw [at?_directory, at?_directory, Keyed.at?_append, Keyed.at?_append, Keyed.at?,
                Keyed.at?]
              cases Keyed.at? before asked with
              | some found => exact Iff.rfl
              | none =>
                  by_cases same : name = asked
                  · simpa [same] using induction inner names
                  · simp [same]
  | trans left right first second =>
      exact (first distinct names).trans (second (left.distinct distinct) names)

theorem exists_directory (reordered : tree.Reordered other) {entries : List (String × FileTree)}
    (directory : tree = .directory entries) : ∃ shuffled, other = .directory shuffled := by
  induction reordered generalizing entries with
  | refl tree => exact ⟨entries, directory⟩
  | permute perm => exact ⟨_, rfl⟩
  | inside before name after reordered => exact ⟨_, rfl⟩
  | trans left right first second =>
      obtain ⟨shuffled, between⟩ := first directory
      exact second between

end FileTree.Reordered

/-! ## Scans -/

/-- What stands below a directory comes before the file that is named after it. -/
theorem names_below_lt (place : List String) (name : String) (rest : List String)
    {ending : String} (nonempty : ending ≠ "") :
    place ++ name :: rest < place ++ [name ++ ending] := by
  have longer : name < name ++ ending := by
    obtain ⟨c, text, spelled⟩ :=
      List.exists_cons_of_ne_nil (fun empty => nonempty (String.toList_eq_nil_iff.1 empty))
    have more : name.toList ++ [] < name.toList ++ c :: text :=
      List.append_left_lt (List.nil_lt_cons c text)
    rwa [List.append_nil, ← spelled, ← String.toList_append, ← String.lt_iff_toList_lt] at more
  exact List.append_left_lt (List.cons_lt_cons_iff.2 (Or.inl longer))

/-- What is less comes first in a list in strict order. -/
theorem sublist_of_pairwise {files : List SourceFile}
    (sorted : files.Pairwise fun first second => first.names < second.names)
    {first second : SourceFile} (member : first ∈ files) (member' : second ∈ files)
    (less : first.names < second.names) : [first, second].Sublist files := by
  obtain ⟨before, after, rfl⟩ := List.mem_iff_append.1 member'
  obtain ⟨-, later, -⟩ := List.pairwise_append.1 sorted
  have notAfter : first ∉ after := fun listed =>
    absurd less (List.rel_of_pairwise_cons later listed).not_gt
  have different : first ≠ second := by
    rintro rfl
    exact lt_irrefl _ less
  have earlier : first ∈ before := by simpa [different, notAfter] using member
  exact (List.singleton_sublist.2 earlier).append ((List.nil_sublist after).cons_cons second)

/-- A scan of the same tree in another order lists the same files in the same order. -/
theorem FileTree.Reordered.scan_eq {entries shuffled : List (String × FileTree)}
    (reordered : (FileTree.directory entries).Reordered (.directory shuffled))
    (distinct : (FileTree.directory entries).Distinct) : scan shuffled = scan entries := by
  have distinct' := reordered.distinct distinct
  refine eq_of_pairwise_names (pairwise_names_scan distinct') (pairwise_names_scan distinct) ?_
  intro file
  rw [mem_scan_iff distinct, mem_scan_iff distinct', reordered.at?_file_iff distinct]

/-- A scan lists the files that stand at visible paths, each of them once and in the strict order of
their paths, with all files below a directory before the source file that is named after it. It does
not depend on the order of directory entries. -/
theorem scan_lists_visible_files {workspace : Workspace} {path : String}
    {entries : List (String × FileTree)}
    (found : workspace.at? path = some (.directory entries))
    (distinct : (FileTree.directory entries).Distinct) :
    ∃ files, workspace.scan path = .ok files ∧
      (∀ file, file ∈ files ↔
        (FileTree.directory entries).at? file.names = some (.file file.content) ∧
          Visible file.names) ∧
      files.Pairwise (fun first second => first.names < second.names) ∧
      (∀ (place : List String) (name : String) (rest : List String), ∀ inside ∈ files,
        ∀ beside ∈ files, inside.names = place ++ name :: rest →
          beside.names = place ++ [name ++ ".rs"] → [inside, beside].Sublist files) ∧
      ∀ (other : Workspace) (place : String) (tree : FileTree), other.at? place = some tree →
        (FileTree.directory entries).Reordered tree → other.scan place = .ok files := by
  have sorted := pairwise_names_scan distinct
  refine ⟨scan entries, by rw [Workspace.scan, found], fun file => mem_scan_iff distinct file,
    sorted, ?_, ?_⟩
  · intro place name rest inside member beside member' below after
    refine sublist_of_pairwise sorted member member' ?_
    rw [below, after]
    exact names_below_lt place name rest (by decide)
  · intro other place tree found' reordered
    obtain ⟨shuffled, rfl⟩ := reordered.exists_directory rfl
    rw [Workspace.scan, found']
    exact congrArg Except.ok (reordered.scan_eq distinct)

/-! ## A project in two orders -/

/-- A directory, the source file that is named after it, and a copy that is not looked into. -/
def apiTree : FileTree :=
  .directory [("api", .directory [("pets.rs", titleFile), ("users.rs", titleFile)]),
    ("api.rs", titleFile), ("target", .directory [("api.rs", titleFile)])]

/-- The same tree, with the entries of two directories the other way round. -/
def shuffledApiTree : FileTree :=
  .directory [("target", .directory [("api.rs", titleFile)]), ("api.rs", titleFile),
    ("api", .directory [("users.rs", titleFile), ("pets.rs", titleFile)])]

theorem distinct_apiTree : apiTree.Distinct := by
  have title : titleFile.Distinct := .file _
  have api : (FileTree.directory [("pets.rs", titleFile), ("users.rs", titleFile)]).Distinct :=
    .directory (by decide) (by simp [title])
  have target : (FileTree.directory [("api.rs", titleFile)]).Distinct :=
    .directory (by decide) (by simp [title])
  exact .directory (by decide) (by simp [title, api, target])

theorem reordered_apiTree : apiTree.Reordered shuffledApiTree := by
  have api : (FileTree.directory [("pets.rs", titleFile), ("users.rs", titleFile)]).Reordered
      (.directory [("users.rs", titleFile), ("pets.rs", titleFile)]) :=
    .permute (.swap _ _ [])
  exact (FileTree.Reordered.inside [] "api" _ api).trans
    (.permute (List.reverse_perm _).symm)

/-- Both orders give the same list of files. -/
theorem scan_of_shuffledApiTree :
    (petsWorkspace apiTree).at? "pets" = some apiTree ∧ apiTree.Distinct ∧
      (petsWorkspace shuffledApiTree).at? "pets" = some shuffledApiTree ∧
      apiTree.Reordered shuffledApiTree ∧
      ∃ files, (petsWorkspace apiTree).scan "pets" = .ok files ∧
        (petsWorkspace shuffledApiTree).scan "pets" = .ok files := by
  have found : (petsWorkspace apiTree).at? "pets" = some apiTree := at?_petsWorkspace _
  have found' : (petsWorkspace shuffledApiTree).at? "pets" = some shuffledApiTree :=
    at?_petsWorkspace _
  obtain ⟨files, scanned, -, -, -, reordered⟩ := scan_lists_visible_files found distinct_apiTree
  exact ⟨found, distinct_apiTree, found', reordered_apiTree, files, scanned,
    reordered _ _ _ found' reordered_apiTree⟩

end DocApi
