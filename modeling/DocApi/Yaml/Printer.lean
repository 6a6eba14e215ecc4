import DocApi.Json.Printer
import DocApi.Yaml.Scalar

/-!
# Writing YAML

A JSON value in block style: every step indents by two blanks, except that the items of a list
under a key stand right below the key. Empty lists and objects are written in brackets.
-/

namespace DocApi.Yaml

/-- The number notation of YAML text. -/
def notationStyle : NumberNotation := ⟨false⟩

/-- The text of a number. -/
def numberText : JsonNumber → List Char
  | .integer value => integerText value
  | .float value => notationStyle.write value

/-- Blanks up to a column. -/
def blanks (column : Nat) : List Char := List.replicate column ' '

/-- Entries one below the other; the first one continues the line. -/
def stack (column : Nat) (entries : List (List Char)) : List Char :=
  (blanks column).intercalate entries

/-- What a value follows. -/
inductive Place where
  /-- A key and a colon. -/
  | key
  /-- A mark of one character. -/
  | mark
deriving DecidableEq, Repr

namespace Place

/-- The column of the items of a list. -/
def itemColumn (indent : Nat) : Place → Nat
  | .key => indent
  | .mark => indent + 2

/-- What stands before the first of several entries: after a key they start on a new line. -/
def lead (column : Nat) : Place → List Char
  | .key => '\n' :: blanks column
  | .mark => [' ']

end Place

/-- A key and its value, whose text depends on what it follows. A key that is long or has several
lines is marked as such. -/
def member (indent : Nat) (key : String) (value : Place → List Char) : List Char :=
  if isSimpleKey key then simpleKey key ++ ':' :: value .key
  else '?' :: ' ' :: (scalarLine (indent + 2) key ++ blanks indent ++ ':' :: value .mark)

mutual

/-- A value up to the end of its last line; the key or mark that it follows stands at `indent`. -/
def node (indent : Nat) : Json → Place → List Char
  | .null, _ => " null\n".toList
  | .bool true, _ => " true\n".toList
  | .bool false, _ => " false\n".toList
  | .number value, _ => ' ' :: (numberText value ++ ['\n'])
  | .string value, _ => ' ' :: scalarLine (indent + 2) value
  | .array values, place =>
      let column := place.itemColumn indent
      if values.isEmpty then " []\n".toList
      else place.lead column ++ stack column (items column values)
  | .object entries, place =>
      if entries.isEmpty then [' ', '{', '}', '\n']
      else place.lead (indent + 2) ++ stack (indent + 2) (members (indent + 2) entries)

/-- The items of a list. -/
def items (column : Nat) : List Json → List (List Char)
  | [] => []
  | item :: more => ('-' :: node column item .mark) :: items column more

/-- The members of an object. -/
def members (column : Nat) : List (String × Json) → List (List Char)
  | [] => []
  | (key, value) :: more => member column key (node column value) :: members column more

end

/-- A value as a whole text. -/
def render (value : Json) : String :=
  String.ofList <|
    match value with
    | .array (item :: more) => stack 0 (items 0 (item :: more))
    | .object (entry :: more) => stack 0 (members 0 (entry :: more))
    | value => (node 0 value .mark).drop 1

end DocApi.Yaml
