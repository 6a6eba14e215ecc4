import DocApi.Text.Split

/-!
# Paths

A path is a text whose parts are separated by slashes. A path that starts with a slash starts at
the root; every other one starts at the current directory.
-/

namespace DocApi.Path

/-- Whether a path starts at the root. -/
def isAbsolute (path : String) : Bool := path.toList.head? == some '/'

/-- The parts of a path. A slash at the end asks for a directory, like a last part `.`. -/
def parts (path : String) : List String :=
  let pieces := ((piecesBy (· == '/') path.toList).filter (!·.isEmpty)).map String.ofList
  if path.toList.getLast? == some '/' then pieces ++ ["."] else pieces

/-- A path held in reverse without the slashes and the parts `.` at its end. -/
def trimReversed : List Char → List Char
  | '/' :: rest => if rest.isEmpty then ['/'] else trimReversed rest
  | '.' :: '/' :: rest => if rest.isEmpty then ['/'] else trimReversed rest
  | path => path

/-- The path without its last part; the root has none. -/
def parent? (path : String) : Option String :=
  let trimmed := trimReversed path.toList.reverse
  if trimmed.isEmpty || trimmed = ['/'] then none
  else some (String.ofList (trimReversed (trimmed.dropWhile (· != '/'))).reverse)

/-- The path of something below a directory. -/
def join (directory : String) (names : List String) : String :=
  names.foldl (fun path name =>
    if path.toList.getLast? == some '/' then path ++ name else path ++ "/" ++ name) directory

end DocApi.Path
