import DocApi.Command.Run

/-!
# The command

Reads a command line, describes the project that it names, and prints or writes the description.
-/

namespace DocApi.Main

/-- How the command is called. -/
def usage : String :=
  "Usage: docapi [OPTIONS] <PROJECT_PATH>\n\n" ++
    "Options:\n" ++
    "  -f, --format <FORMAT>  Output format: yaml (the default) or json\n" ++
    "  -o, --output <FILE>    File for the output instead of printing it\n" ++
    "  -v, --verbose          More output\n" ++
    "  -h, --help             This text\n" ++
    "  -V, --version          The version"

/-- What is said about a command line that is not run. -/
def complaint : ArgumentsError → String
  | .missingRequired => "error: the path of the project is missing"
  | .invalidValue => "error: a value is missing or invalid"
  | .unknown => "error: unknown argument"
  | .conflict => "error: an argument is given twice"
  | .tooManyValues => "error: an argument takes no value"
  | .help => usage
  | .version => "docapi 0.1.0"

/-- The entries of a directory of the file system. Links are kept as links. -/
partial def readEntries (name : String) : IO (List (String × FileTree)) := do
  let here ← IO.currentDir
  let found ← (here / name).readDir
  found.toList.mapM fun entry => do
    let path := (here / name / entry.fileName).toString
    match (← entry.path.symlinkMetadata).type with
    | .dir => return (entry.fileName, .directory (← readEntries path))
    | .file => return (entry.fileName, .file (← IO.FS.readBinFile path))
    | _ => return (entry.fileName, .link path)

/-- The description of the project at a path of the file system. -/
def describeProject (path : String) : IO (Except RunError Generation) := do
  let project := (← IO.currentDir) / path
  if !(← project.pathExists) then return .error (.missing path)
  else if !(← project.isDir) then return .error (.notDirectory path)
  else return describe path (scan (← readEntries path))

/-- Writes a text to the file system. -/
def writeText (path content : String) : IO (Except RunError Unit) := do
  try
    if let some parent := (Path.parent? path).bind nonEmptyText? then IO.FS.createDirAll parent
  catch _ => return .error (.directoryRefused ((Path.parent? path).getD ""))
  try
    IO.FS.writeFile path content
    return .ok ()
  catch _ => return .error (.fileRefused path)

/-- Prints or writes a description. -/
def deliver (arguments : Arguments) (generation : Generation) : IO (Except RunError Unit) := do
  let content := generation.document.render arguments.format
  match arguments.output with
  | some path => writeText path content
  | none =>
      IO.println content
      return .ok ()

/-- Runs the arguments of a command line; the result is the exit code. -/
def runArguments (arguments : Arguments) : IO UInt32 := do
  let outcome ← match ← describeProject arguments.project with
    | .ok generation => deliver arguments generation
    | .error error => pure (.error error)
  match outcome with
  | .ok () => return 0
  | .error error =>
      IO.eprintln ("Error: " ++ error.message)
      return 1

end DocApi.Main

/-- Runs a command line. -/
def main (texts : List String) : IO UInt32 := do
  match DocApi.Arguments.parse texts with
  | .ok arguments => DocApi.Main.runArguments arguments
  | .error error =>
      if error = .help || error = .version then
        IO.println (DocApi.Main.complaint error)
        return 0
      else
        IO.eprintln (DocApi.Main.complaint error)
        return 2
