import DocApi.Source.Grammar.Basic

/-!
# Attributes

An attribute is a path between brackets after `#`, or `#!` when it belongs to what encloses it. It
may have arguments between delimiters, which are kept as they are, or a value.
-/

namespace DocApi.Source.Grammar

open Rule

/-- Whether a segment of a plain path can start here. -/
def isPathWord (trees : List Tree) : Bool :=
  isIdent trees || isWord "super" trees || isWord "self" trees || isWord "Self" trees ||
    isWord "crate" trees

/-- A path of words; tells whether it starts with `::`, and its segments. -/
def wordPath : Rule (Bool × List Ident) := do
  let rooted ← punct? "::"
  let segments ← loop (fun found => do
    require (← ahead isPathWord)
    let segment ← anyIdent
    if ← punct? "::" then return .again (segment :: found)
    else return .done (segment :: found).reverse) []
  return (rooted, segments)

/-- The path of an attribute. -/
def attributePath : Rule (Bool × List Ident) := do
  if ← ahead (isWord "unsafe") then return (false, [← anyIdent])
  else wordPath

/-- The value of an attribute: a literal alone, or an expression. -/
def attributeValue (g : Grammar) : Rule Attribute.Content := do
  match ← lookahead (do
    let value ← literal
    return (value, ← atEnd)) with
  | some (value, true) =>
      let _ ← literal
      match value with
      | .text value => return .text value
      | _ => return .value
  | _ =>
      require !(← ahead fun trees => isPunct "#" trees && second (isGroup .bracket) trees)
      let _ ← g.expr true
      return .value

/-- What an attribute holds between its brackets. -/
def attributeBody (g : Grammar) (inner : Bool) : Rule Attribute := do
  let (rooted, path) ← attributePath
  let name := match rooted, path with
    | false, [name] => some name
    | _, _ => none
  if ← ahead fun trees =>
      isGroup .paren trees || isGroup .bracket trees || isGroup .brace trees then
    let (_, trees) ← anyGroup
    return ⟨inner, name, .arguments trees⟩
  else if ← ahead fun trees =>
      isPunct "=" trees && !isPunct "==" trees && !isPunct "=>" trees then
    punct "="
    return ⟨inner, name, ← attributeValue g⟩
  else return ⟨inner, name, .none⟩

/-- The attributes before an item, field, expression or parameter. -/
def outerAttributes (g : Grammar) : Rule (List Attribute) :=
  whileAhead (isPunct "#") do
    punct "#"
    within .bracket (attributeBody g false)

/-- The attributes at the start of what they belong to. -/
def innerAttributes (g : Grammar) : Rule (List Attribute) :=
  whileAhead (fun trees => isPunct "#" trees && second (isPunct "!") trees) do
    punct "#"
    punct "!"
    within .bracket (attributeBody g true)

end DocApi.Source.Grammar
