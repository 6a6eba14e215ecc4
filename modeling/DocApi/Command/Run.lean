import DocApi.Command.Arguments
import DocApi.Project.Generate

/-!
# Running a command line

A run describes a project and prints the description, or writes it to a file whose directory is
created when it is missing.
-/

namespace DocApi

/-- What a run leaves behind. -/
structure RunResult where
  /-- What is printed. -/
  printed : String
  /-- The files after the run. -/
  workspace : Workspace

namespace Workspace

/-- Checks that the path of a project leads to a directory. -/
def checkProject (workspace : Workspace) (path : String) : Except RunError Unit :=
  match workspace.at? path with
  | none => .error (.missing path)
  | some (.directory _) => .ok ()
  | some _ => .error (.notDirectory path)

/-- Writes a text to a file; the directories above it are created when they are missing. -/
def writeText (workspace : Workspace) (path content : String) : Except RunError Workspace := do
  let workspace ← match (Path.parent? path).bind nonEmptyText? with
    | none => .ok workspace
    | some parent =>
        match workspace.createDirectory? parent with
        | some workspace => .ok workspace
        | none => .error (.directoryRefused parent)
  match workspace.writeFile? path content.toUTF8 with
  | some workspace => return workspace
  | none => .error (.fileRefused path)

/-- Runs a command line. -/
def run (workspace : Workspace) (arguments : Arguments) : Except RunError RunResult := do
  workspace.checkProject arguments.project
  let generation ← workspace.generate arguments.project
  let content := generation.document.render arguments.format
  match arguments.output with
  | some path => return ⟨"", ← workspace.writeText path content⟩
  | none => return ⟨content ++ "\n", workspace⟩

end Workspace

end DocApi
