/-!
# Malformed annotation lines

A line that starts like an annotation but cannot be read is dropped; this is why.
-/

namespace DocApi

/-- Why an annotation line cannot be read. -/
inductive AnnotationError where
  /-- A quotation mark without its partner. -/
  | unterminatedQuote
  /-- An opening delimiter without its partner. -/
  | unterminatedDelimiter (opening : Char)
  /-- The verb needs something that the line does not have. -/
  | missingToken (verb : String) (token : String)
deriving DecidableEq, Repr

/-- The wording of an error. -/
def AnnotationError.message : AnnotationError → String
  | .unterminatedQuote => "unterminated quoted string"
  | .unterminatedDelimiter opening => "unterminated '" ++ opening.toString ++ "' value"
  | .missingToken verb token => "!" ++ verb ++ " is missing its " ++ token

end DocApi
