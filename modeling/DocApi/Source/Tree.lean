/-!
# Token trees

Source text is first cut into tokens. Parentheses, brackets and braces always come in pairs, so the
tokens form trees: a group is one token, and what it encloses are trees again.
-/

namespace DocApi.Source

/-- An identifier. A raw identifier is written with `r#` and is never a keyword. -/
structure Ident where
  /-- The identifier without `r#`. -/
  name : String
  /-- Whether it is written with `r#`. -/
  raw : Bool
  /-- There is no identifier without a character. -/
  nonempty : name ≠ ""
deriving DecidableEq, Repr

namespace Ident

/-- The identifier as it is written. -/
def spelling (ident : Ident) : String := if ident.raw then "r#" ++ ident.name else ident.name

/-- Whether the identifier is the plain word `word`. -/
def isWord (ident : Ident) (word : String) : Bool := !ident.raw && ident.name == word

end Ident

/-- A pair of delimiters. -/
inductive Delimiter where
  | paren | bracket | brace
deriving DecidableEq, Repr

/-- A literal. -/
inductive Literal where
  /-- A string with what it stands for. -/
  | text (value : String)
  /-- An integer with its value and suffix. -/
  | integer (value : Nat) (suffix : String)
  /-- A number with a point or an exponent, as written. -/
  | float (spelling : String)
  /-- A character, a byte, a string of bytes, or a token that could not be read. -/
  | other
deriving DecidableEq, Repr

/-- A token tree. -/
inductive Tree where
  | ident (ident : Ident)
  /-- One punctuation character; `joint` tells whether another one follows at once. -/
  | punct (mark : Char) (joint : Bool)
  | literal (literal : Literal)
  | group (delimiter : Delimiter) (body : List Tree)
deriving Repr, Inhabited

mutual

/-- The number of tokens in a tree. -/
def Tree.size : Tree → Nat
  | .group _ body => treesSize body + 2
  | _ => 1

/-- The number of tokens in a list of trees. -/
def treesSize : List Tree → Nat
  | [] => 0
  | tree :: trees => tree.size + treesSize trees

end

end DocApi.Source
