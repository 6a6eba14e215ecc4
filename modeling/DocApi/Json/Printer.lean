import DocApi.Json.Value
import DocApi.Decimal.Notation

/-!
# Writing JSON

A value is written over several lines with an indent of two blanks, or on one line without any
blanks. Quotes, backslashes and control characters are escaped; everything else is written as it
is.
-/

namespace DocApi.Json

/-- The number notation of JSON text. -/
def notationStyle : NumberNotation := ⟨true⟩

/-- The text of a number. -/
def numberText : JsonNumber → List Char
  | .integer value => integerText value
  | .float value => notationStyle.write value

/-- One character of a string. -/
def escapeChar (c : Char) : List Char :=
  if c == '"' then ['\\', '"']
  else if c == '\\' then ['\\', '\\']
  else if c == '\x08' then ['\\', 'b']
  else if c == '\x0c' then ['\\', 'f']
  else if c == '\n' then ['\\', 'n']
  else if c == '\r' then ['\\', 'r']
  else if c == '\t' then ['\\', 't']
  else if c.toNat < 0x20 then
    ['\\', 'u', '0', '0', Nat.digitChar (c.toNat / 16), Nat.digitChar (c.toNat % 16)]
  else [c]

/-- A string in quotes. -/
def quoted (value : String) : List Char := '"' :: (value.toList.flatMap escapeChar ++ ['"'])

/-- A line end and an indent of `depth` steps. -/
def newline (depth : Nat) : List Char := '\n' :: List.replicate (2 * depth) ' '

mutual

/-- A value over several lines; `depth` is the indent of the line it starts on. -/
def pretty (depth : Nat) : Json → List Char
  | .null => ['n', 'u', 'l', 'l']
  | .bool true => ['t', 'r', 'u', 'e']
  | .bool false => ['f', 'a', 'l', 's', 'e']
  | .number value => numberText value
  | .string value => quoted value
  | .array [] => ['[', ']']
  | .array (item :: items) =>
      '[' :: (newline (depth + 1) ++ pretty (depth + 1) item ++ prettyItems (depth + 1) items ++
        newline depth ++ [']'])
  | .object [] => ['{', '}']
  | .object ((key, value) :: members) =>
      '{' :: (newline (depth + 1) ++ quoted key ++ [':', ' '] ++ pretty (depth + 1) value ++
        prettyMembers (depth + 1) members ++ newline depth ++ ['}'])

/-- The items after the first, each on its own line. -/
def prettyItems (depth : Nat) : List Json → List Char
  | [] => []
  | item :: items => ',' :: (newline depth ++ pretty depth item ++ prettyItems depth items)

/-- The members after the first, each on its own line. -/
def prettyMembers (depth : Nat) : List (String × Json) → List Char
  | [] => []
  | (key, value) :: members =>
      ',' :: (newline depth ++ quoted key ++ [':', ' '] ++ pretty depth value ++
        prettyMembers depth members)

end

/-- The text of a value over several lines, without a final line end. -/
def render (value : Json) : String := String.ofList (pretty 0 value)

mutual

/-- A value on one line. -/
def compact : Json → List Char
  | .null => ['n', 'u', 'l', 'l']
  | .bool true => ['t', 'r', 'u', 'e']
  | .bool false => ['f', 'a', 'l', 's', 'e']
  | .number value => numberText value
  | .string value => quoted value
  | .array items => '[' :: (compactItems items ++ [']'])
  | .object members => '{' :: (compactMembers members ++ ['}'])

/-- Items on one line. -/
def compactItems : List Json → List Char
  | [] => []
  | [item] => compact item
  | item :: items => compact item ++ ',' :: compactItems items

/-- Members on one line. -/
def compactMembers : List (String × Json) → List Char
  | [] => []
  | [(key, value)] => quoted key ++ ':' :: compact value
  | (key, value) :: members => quoted key ++ ':' :: (compact value ++ ',' :: compactMembers members)

end

/-- The text of a value on one line. -/
def renderLine (value : Json) : String := String.ofList (compact value)

end DocApi.Json
