import DocApi.Project.Tree

/-!
# Scanning a project

The source files of a project are the files with the right ending below its directory. What starts
with a point is hidden, and some directories are never looked into. Links are not followed. The
files are listed in the order of their paths, compared name by name.
-/

namespace DocApi

/-- A source file with the names that lead to it from the directory of the project. -/
structure SourceFile where
  names : List String
  content : ByteArray

/-- The directories that are never looked into. -/
def skippedDirectories : List String := ["target", "vendor", "testdata"]

/-- Whether a name is hidden. -/
def isHidden (name : String) : Bool := name.toList.head? == some '.'

/-- Whether a name is that of a source file: something before the ending `.rs`. -/
def isSourceName (name : String) : Bool :=
  match beforeEnd? ".rs".toList name.toList with
  | some stem => !stem.isEmpty
  | none => false

/-- The file as it is seen from the directory above. -/
def SourceFile.below (name : String) (file : SourceFile) : SourceFile :=
  { file with names := name :: file.names }

mutual

/-- The source files at an entry of a directory. -/
def FileTree.sourceFiles (name : String) : FileTree → List SourceFile
  | .file content => if isHidden name || !isSourceName name then [] else [⟨[name], content⟩]
  | .directory entries =>
      if isHidden name || skippedDirectories.contains name then []
      else (entriesSourceFiles entries).map (SourceFile.below name)
  | .link _ => []

/-- The source files below a directory, in the order of its entries. -/
def entriesSourceFiles : List (String × FileTree) → List SourceFile
  | [] => []
  | (name, tree) :: entries => tree.sourceFiles name ++ entriesSourceFiles entries

end

/-- Whether a path comes before another one or is the same, compared name by name. -/
def namesLe : (left right : List String) → Bool
  | [], _ => true
  | _ :: _, [] => false
  | left :: lefts, right :: rights =>
      if left < right then true
      else if right < left then false
      else namesLe lefts rights

/-- The source files of a project with the given entries, in the order of their paths. -/
def scan (entries : List (String × FileTree)) : List SourceFile :=
  (entriesSourceFiles entries).mergeSort fun left right => namesLe left.names right.names

end DocApi
