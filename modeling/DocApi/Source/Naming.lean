import DocApi.Text.Casing
import DocApi.Text.Split

/-!
# Naming rules

A record can ask for all of its fields to be renamed by a rule. The rules take a name apart at its
underscores; empty words are dropped.
-/

namespace DocApi.Source

/-- A rule that renames fields. -/
inductive NamingRule where
  | lower | upper | pascal | camel | snake | screamingSnake | kebab | screamingKebab
deriving DecidableEq, Repr

namespace NamingRule

/-- The rule that a record asks for by name. -/
def ofName? (name : String) : Option NamingRule :=
  if name = "lowercase" then some .lower
  else if name = "UPPERCASE" then some .upper
  else if name = "PascalCase" then some .pascal
  else if name = "camelCase" then some .camel
  else if name = "snake_case" then some .snake
  else if name = "SCREAMING_SNAKE_CASE" then some .screamingSnake
  else if name = "kebab-case" then some .kebab
  else if name = "SCREAMING-KEBAB-CASE" then some .screamingKebab
  else none

/-- The words of a field name. -/
def words (field : List Char) : List (List Char) :=
  (piecesBy (· == '_') field).filter (!·.isEmpty)

/-- A word with its first character in upper case. -/
def capitalized : List Char → List Char
  | [] => []
  | c :: word => upperChar c ++ word

/-- The words of a field name with hyphens in between. -/
def hyphenated (field : List Char) : List Char := ['-'].intercalate (words field)

/-- The name of a field under a rule. -/
def apply (rule : NamingRule) (field : List Char) : List Char :=
  match rule with
  | .lower => lowerText field
  | .upper => upperText field
  | .pascal => (words field).flatMap capitalized
  | .camel =>
      match words field with
      | [] => []
      | first :: others => first ++ others.flatMap capitalized
  | .snake => field
  | .screamingSnake => upperText field
  | .kebab => hyphenated field
  | .screamingKebab => upperText (hyphenated field)

end NamingRule

/-- The name of a field under the rule with the given name; an unknown rule changes nothing. -/
def renamed (rule field : String) : String :=
  match NamingRule.ofName? rule with
  | some rule => String.ofList (rule.apply field.toList)
  | none => field

end DocApi.Source
