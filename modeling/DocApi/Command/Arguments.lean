import DocApi.Document.Text
import DocApi.Text.Split

/-!
# Command line arguments

A command line names the directory of a project and may choose the format and the file of the
output. Options can be written long or short; short ones can be joined, and a value can follow its
option directly, after an equals sign or as the next argument. After `--` every argument is a
path.

The value of an option is checked when the next known argument is read, so an unknown argument is
reported before a bad value right in front of it.
-/

namespace DocApi

/-- What a command line asks for. -/
structure Arguments where
  /-- The directory of the project. -/
  project : String
  format : Format
  /-- The file for the output. -/
  output : Option String
  verbose : Bool
deriving DecidableEq, Repr

/-- Why a command line is not run. -/
inductive ArgumentsError where
  | missingRequired | invalidValue | unknown | conflict | tooManyValues
  /-- The command line asks for help. -/
  | help
  /-- The command line asks for the version. -/
  | version
deriving DecidableEq, Repr

/-- The arguments that have a value. -/
inductive Slot where
  | project | format | output
deriving DecidableEq, Repr

/-- The format with the given name. -/
def Format.ofWord? (word : String) : Option Format :=
  if word = "yaml" then some .yaml else if word = "json" then some .json else none

/-- What is known of a command line so far. -/
structure ArgumentsDraft where
  project : Option String := none
  format : Option Format := none
  output : Option String := none
  verbose : Bool := false
  /-- An argument whose value is not checked yet, or still missing. -/
  pending : Option (Slot × Option String) := none

namespace ArgumentsDraft

/-- Stores the value of an argument. -/
def store (draft : ArgumentsDraft) (slot : Slot) (value : String) :
    Except ArgumentsError ArgumentsDraft :=
  match slot with
  | .project =>
      if draft.project.isSome then .error .conflict
      else if value = "" then .error .invalidValue
      else .ok { draft with project := some value }
  | .format =>
      if draft.format.isSome then .error .conflict
      else
        match Format.ofWord? value with
        | some format => .ok { draft with format := some format }
        | none => .error .invalidValue
  | .output =>
      if draft.output.isSome then .error .conflict
      else if value = "" then .error .invalidValue
      else .ok { draft with output := some value }

/-- Checks and stores what is pending. -/
def settle (draft : ArgumentsDraft) : Except ArgumentsError ArgumentsDraft :=
  match draft.pending with
  | none => .ok draft
  | some (_, none) => .error .invalidValue
  | some (slot, some value) => { draft with pending := none }.store slot value

/-- Reads an option with a value, which may still follow. -/
def option (draft : ArgumentsDraft) (slot : Slot) (value : Option String) :
    Except ArgumentsError ArgumentsDraft := do
  let draft ← draft.settle
  match value with
  | some value => draft.store slot value
  | none => return { draft with pending := some (slot, none) }

/-- Reads the option that asks for more output. -/
def verboseOption (draft : ArgumentsDraft) : Except ArgumentsError ArgumentsDraft := do
  let draft ← draft.settle
  if draft.verbose then .error .conflict else return { draft with verbose := true }

/-- Reads an option that ends the command line with an answer. -/
def answerOption (draft : ArgumentsDraft) (answer : ArgumentsError) :
    Except ArgumentsError ArgumentsDraft := do
  let _ ← draft.settle
  .error answer

/-- Reads an option without a value by its long name. -/
def longSwitch (draft : ArgumentsDraft) (name : String) : Except ArgumentsError ArgumentsDraft :=
  if name = "verbose" then draft.verboseOption
  else if name = "help" then draft.answerOption .help
  else draft.answerOption .version

/-- Reads an option by its long name. -/
def long (draft : ArgumentsDraft) (name : String) (value : Option String) :
    Except ArgumentsError ArgumentsDraft :=
  if name = "format" then draft.option .format value
  else if name = "output" then draft.option .output value
  else if name = "verbose" || name = "help" || name = "version" then
    if value.isSome then .error .tooManyValues else draft.longSwitch name
  else .error .unknown

/-- The value that follows a short option directly. -/
def attachedValue : List Char → Option String
  | [] => none
  | '=' :: value => some (String.ofList value)
  | value => some (String.ofList value)

/-- Reads joined short options. -/
def short (draft : ArgumentsDraft) : List Char → Except ArgumentsError ArgumentsDraft
  | [] => .ok draft
  | c :: letters =>
      if c = 'f' then draft.option .format (attachedValue letters)
      else if c = 'o' then draft.option .output (attachedValue letters)
      else if c = 'h' then draft.answerOption .help
      else if c = 'V' then draft.answerOption .version
      else if c = 'v' then
        match draft.verboseOption with
        | .ok draft => draft.short letters
        | .error error => .error error
      else .error .unknown

/-- Whether the path of the project is given already. -/
def hasProject (draft : ArgumentsDraft) : Bool :=
  draft.project.isSome ||
    match draft.pending with
    | some (.project, _) => true
    | _ => false

/-- Reads a path. -/
def positional (draft : ArgumentsDraft) (value : String) : Except ArgumentsError ArgumentsDraft :=
  if draft.hasProject then .error .unknown
  else do
    let draft ← draft.settle
    return { draft with pending := some (.project, some value) }

/-- Reads an argument that is no option: the value of an option that waits for one, or a path. -/
def value (draft : ArgumentsDraft) (text : String) : Except ArgumentsError ArgumentsDraft :=
  match draft.pending with
  | some (slot, none) => .ok { draft with pending := some (slot, some text) }
  | _ => draft.positional text

/-- Reads one argument before any `--`. -/
def argument (draft : ArgumentsDraft) (text : String) : Except ArgumentsError ArgumentsDraft :=
  match text.toList with
  | '-' :: '-' :: name =>
      match cutAt '=' name with
      | some (name, value) => draft.long (String.ofList name) (some (String.ofList value))
      | none => draft.long (String.ofList name) none
  | '-' :: c :: letters => draft.short (c :: letters)
  | _ => draft.value text

/-- Reads the arguments; `escaped` tells whether `--` stands before them. -/
def arguments (draft : ArgumentsDraft) (escaped : Bool) :
    List String → Except ArgumentsError ArgumentsDraft
  | [] => draft.settle
  | text :: texts =>
      if escaped then
        match draft.positional text with
        | .ok draft => draft.arguments true texts
        | .error error => .error error
      else if text = "--" then draft.arguments true texts
      else
        match draft.argument text with
        | .ok draft => draft.arguments false texts
        | .error error => .error error

end ArgumentsDraft

/-- Reads a command line. -/
def Arguments.parse (texts : List String) : Except ArgumentsError Arguments := do
  let draft ← ({} : ArgumentsDraft).arguments false texts
  match draft.project with
  | none => .error .missingRequired
  | some project =>
      return {
        project
        format := draft.format.getD .yaml
        output := draft.output
        verbose := draft.verbose }

end DocApi
