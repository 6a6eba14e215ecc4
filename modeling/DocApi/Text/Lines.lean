/-!
# Lines

A line ends at a newline, and one carriage return before that newline belongs to the line end.
A text that ends with a newline has no further line, so the empty text has no lines at all; a
carriage return at the very end of a text belongs to its last line.
-/

namespace DocApi

/-- Drops a carriage return from the end of a line held in reverse. -/
def dropReturn : List Char → List Char
  | '\r' :: line => line
  | line => line

/-- The lines of `text` when the characters of `pending` (in reverse) already stand before it. -/
def linesFrom (pending : List Char) : List Char → List (List Char)
  | [] => if pending.isEmpty then [] else [pending.reverse]
  | '\n' :: text => (dropReturn pending).reverse :: linesFrom [] text
  | c :: text => linesFrom (c :: pending) text

/-- The lines of a text, without their line ends. -/
def lines (text : List Char) : List (List Char) := linesFrom [] text

/-- Joins lines with single newlines; no newline follows the last one. -/
def joinLines (texts : List (List Char)) : List Char := ['\n'].intercalate texts

end DocApi
