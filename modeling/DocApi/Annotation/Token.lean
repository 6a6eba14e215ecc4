/-!
# Tokens of an annotation line

What follows the verb of an annotation line is a sequence of tokens.
-/

namespace DocApi

/-- One token of an annotation line. -/
inductive Token where
  /-- A bare word. -/
  | word (text : String)
  /-- Text in double quotes, without the quotes and the escaping backslashes. -/
  | quoted (text : String)
  /-- `<text>` -/
  | angle (text : String)
  /-- `(text)` -/
  | paren (text : String)
  /-- `#name` -/
  | tag (name : String)
  /-- `key=value`; `quoted` tells whether the value stood in double quotes. -/
  | flag (key value : String) (quoted : Bool)
  /-- `name:type` -/
  | typed (name type : String)
  /-- `->` -/
  | arrow
deriving DecidableEq, Repr

namespace Token

/-- The token as plain text, without its delimiters. -/
def text : Token → String
  | .word text | .quoted text | .angle text | .paren text => text
  | .tag name => "#" ++ name
  | .flag key value _ => key ++ "=" ++ value
  | .typed name type => name ++ ":" ++ type
  | .arrow => "->"

/-- Whether the token stood in double quotes. -/
def isQuoted : Token → Bool
  | .quoted _ => true
  | _ => false

/-- Whether the token is a word or a typed name. -/
def isBare : Token → Bool
  | .word _ | .typed _ _ => true
  | _ => false

/-- Whether the token stood in parentheses. -/
def isParen : Token → Bool
  | .paren _ => true
  | _ => false

end Token

end DocApi
