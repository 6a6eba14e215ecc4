import DocApi.Error
import DocApi.Project.Scan
import DocApi.Spec.Build
import DocApi.Spec.Walk

/-!
# Describing a project

The source files of a project are read in order and gathered into one specification. Files that
cannot be read or parsed are left out. A project whose annotations give no title has no
description.
-/

namespace DocApi

/-- Why a source file is left out. -/
inductive LoadError where
  /-- The file is no text. -/
  | unreadable
  /-- The text is no source. -/
  | unparsable
deriving DecidableEq, Repr

/-- Reads and parses a source file. -/
def SourceFile.load (file : SourceFile) : Except LoadError Source.File :=
  match String.fromUTF8? file.content with
  | none => .error .unreadable
  | some text =>
      match Source.File.parse? text with
      | none => .error .unparsable
      | some parsed => .ok parsed

/-- Why a run ends without a description. -/
inductive RunError where
  /-- There is nothing at the path of the project. -/
  | missing (path : String)
  /-- The path of the project does not lead to a directory. -/
  | notDirectory (path : String)
  /-- The project cannot be scanned. -/
  | unscannable (path : String)
  /-- No annotation of the project gives a title. -/
  | untitled (path : String)
  /-- The directory of the output cannot be created. -/
  | directoryRefused (path : String)
  /-- The output cannot be written. -/
  | fileRefused (path : String)
deriving DecidableEq, Repr

/-- The wording of an error. -/
def RunError.message : RunError → String
  | .missing path => "Project path does not exist: " ++ path
  | .notDirectory path => "Project path is not a directory: " ++ path
  | .unscannable path => "Failed to scan " ++ path
  | .untitled path =>
      "No API annotations found in " ++ path ++
        ": add a `!info \"Title\" <version>` doc comment line"
  | .directoryRefused path => "Failed to create directory: " ++ path
  | .fileRefused path => "Failed to write to file: " ++ path

/-- The description of a project. -/
structure Generation where
  document : Document
  /-- The number of source files. -/
  scanned : Nat
  /-- The number of source files that could be parsed. -/
  parsed : Nat

/-- The files that can be read and parsed, in order. -/
def parsedFiles (files : List SourceFile) : List Source.File :=
  files.filterMap fun file =>
    match file.load with
    | .ok parsed => some parsed
    | .error _ => none

/-- The specification of parsed files. -/
def Spec.ofFiles (files : List Source.File) : Spec :=
  (files.map Declarations.ofFile).foldl Spec.walk {}

/-- The description of the project at a path with the given source files. -/
def describe (path : String) (files : List SourceFile) : Except RunError Generation :=
  let parsed := parsedFiles files
  let spec := Spec.ofFiles parsed
  if spec.info.title = "" then .error (.untitled path)
  else .ok { document := spec.build, scanned := files.length, parsed := parsed.length }

/-- The source files at the path of a project, which must be a directory. -/
def Workspace.scan (workspace : Workspace) (path : String) : Except Failure (List SourceFile) :=
  match workspace.at? path with
  | some (.directory entries) => .ok (DocApi.scan entries)
  | _ => .error (.invalidArgument (path ++ " is not a directory"))

/-- The description of the project at a path. -/
def Workspace.generate (workspace : Workspace) (path : String) : Except RunError Generation :=
  match workspace.scan path with
  | .error _ => .error (.unscannable path)
  | .ok files => describe path files

end DocApi
