import DocApi.Keyed
import DocApi.Project.Path

/-!
# File trees

Files, directories and symbolic links as a value. A path is followed from a directory part by
part; links on the way are replaced by their targets.
-/

namespace DocApi

/-- A file, a directory or a symbolic link. -/
inductive FileTree where
  | file (content : ByteArray)
  | directory (entries : List (String × FileTree))
  | link (target : String)

namespace FileTree

/-- The tree at a location: the names that lead to it from the root. -/
def at? : (tree : FileTree) → (location : List String) → Option FileTree
  | tree, [] => some tree
  | .directory entries, name :: names => (Keyed.at? entries name).bind (at? · names)
  | _, _ :: _ => none

/-- The entries of a directory. -/
def entries? : FileTree → Option (List (String × FileTree))
  | .directory entries => some entries
  | _ => none

/-- Puts a tree at a location; directories on the way are created. -/
def put : (tree : FileTree) → (location : List String) → (value : FileTree) → FileTree
  | _, [], value => value
  | tree, name :: names, value =>
      let entries := tree.entries?.getD []
      let child := (Keyed.at? entries name).getD (.directory [])
      .directory (Keyed.put entries name (put child names value))

/-- The number of links that a path may lead through. -/
def linkLimit : Nat := 40

/-- Where a link at `location` leads: the directory to start from and the parts to follow. -/
def linkStart (location : List String) (target : String) : List String :=
  if Path.isAbsolute target then [] else location

/-- The location that parts lead to from a directory. -/
def locate? (root : FileTree) (links : Nat) (location : List String) (parts : List String) :
    Option (List String) :=
  match parts with
  | [] => some location
  | part :: parts =>
      match (root.at? location).bind entries? with
      | none => none
      | some entries =>
          if part = "." then locate? root links location parts
          else if part = ".." then locate? root links location.dropLast parts
          else
            match Keyed.at? entries part with
            | none => none
            | some (.link target) =>
                match links with
                | 0 => none
                | links + 1 =>
                    locate? root links (linkStart location target) (Path.parts target ++ parts)
            | some _ => locate? root links (location ++ [part]) parts
termination_by (links, parts.length)

/-- The location of a file that parts lead to from a directory; the file may be missing. -/
def locateFile? (root : FileTree) (links : Nat) (location : List String) (parts : List String) :
    Option (List String) :=
  match parts.getLast? with
  | none => none
  | some name =>
      if name = "." || name = ".." then none
      else
        match locate? root linkLimit location parts.dropLast with
        | none => none
        | some above =>
            match (root.at? above).bind entries? with
            | none => none
            | some entries =>
                match Keyed.at? entries name, links with
                | some (.directory _), _ => none
                | some (.link _), 0 => none
                | some (.link target), links + 1 =>
                    locateFile? root links (linkStart above target) (Path.parts target)
                | some (.file _), _ => some (above ++ [name])
                | none, _ => some (above ++ [name])

/-- Creates the directories that parts lead through from a directory. -/
def createDirectories? (root : FileTree) (location : List String) :
    (parts : List String) → Option FileTree
  | [] => some root
  | part :: parts =>
      match (root.at? location).bind entries? with
      | none => none
      | some entries =>
          if part = "." then createDirectories? root location parts
          else if part = ".." then createDirectories? root location.dropLast parts
          else
            match Keyed.at? entries part with
            | none =>
                let location := location ++ [part]
                createDirectories? (root.put location (.directory [])) location parts
            | some (.directory _) => createDirectories? root (location ++ [part]) parts
            | some (.file _) => none
            | some (.link target) =>
                match locate? root linkLimit (linkStart location target) (Path.parts target) with
                | some location => createDirectories? root location parts
                | none => none

end FileTree

/-- A file tree with a current directory. -/
structure Workspace where
  root : FileTree
  /-- The location of the current directory. -/
  current : List String

namespace Workspace

/-- The location that a path starts from. -/
def start (workspace : Workspace) (path : String) : List String :=
  if Path.isAbsolute path then [] else workspace.current

/-- What stands at a path, links followed. -/
def at? (workspace : Workspace) (path : String) : Option FileTree :=
  (workspace.root.locate? FileTree.linkLimit (workspace.start path) (Path.parts path)).bind
    workspace.root.at?

/-- Creates a directory with all directories above it. -/
def createDirectory? (workspace : Workspace) (path : String) : Option Workspace :=
  (workspace.root.createDirectories? (workspace.start path) (Path.parts path)).map
    fun root => { workspace with root }

/-- Writes a file in a directory that is there. -/
def writeFile? (workspace : Workspace) (path : String) (content : ByteArray) : Option Workspace :=
  (workspace.root.locateFile? FileTree.linkLimit (workspace.start path) (Path.parts path)).map
    fun location => { workspace with root := workspace.root.put location (.file content) }

end Workspace

end DocApi
