import DocApi.Source.Item
import DocApi.Text.Blank
import DocApi.Text.Lines

/-!
# Doc comments

A doc comment is an attribute named `doc` with a text. The text of a line comment is one line; the
text of a block comment has several, which usually start with a star.
-/

namespace DocApi.Source

/-- Drops one blank at the start of a line. -/
def dropOneSpace : List Char → List Char
  | ' ' :: line => line
  | line => line

/-- A line of a block comment without its indentation and its star. -/
def dropGutter (line : List Char) : List Char :=
  match trim line with
  | '*' :: rest => dropOneSpace rest
  | line => line

/-- The lines of one doc comment. -/
def commentLines (comment : List Char) : List (List Char) :=
  (lines comment).map (if comment.contains '\n' then dropGutter else dropOneSpace)

/-- The text of a doc comment of the wanted side: `inner` comments stand inside of what they
describe, the others before it. -/
def Attribute.comment? (inner : Bool) (attr : Attribute) : Option (List Char) :=
  match attr.content with
  | .text value => if attr.inner = inner && attr.isNamed "doc" then some value.toList else none
  | _ => none

/-- The doc comments of one side, joined to one text. -/
def docText (inner : Bool) (attributes : List Attribute) : String :=
  String.ofList (joinLines ((attributes.filterMap (Attribute.comment? inner)).flatMap commentLines))

end DocApi.Source
