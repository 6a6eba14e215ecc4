import DocApi.Source.Grammar.Type

/-!
# Patterns

The grammar of patterns. A rule tells whether its pattern is a range with an open end, which may
not stand unparenthesised in a slice.
-/

namespace DocApi.Source.Grammar

open Rule

/-- Whether a further alternative follows. -/
def alternativeAhead (trees : List Tree) : Bool :=
  isPunct "|" trees && !isPunct "||" trees && !isPunct "|=" trees

/-- A pattern with alternatives; one `|` may stand before the first. -/
def alternatives (g : Grammar) : Rule Bool := do
  let leading ← punct? "|"
  let openRange ← g.pattern
  if leading || (← ahead alternativeAhead) then
    let _ ← whileAhead alternativeAhead do
      punct "|"
      g.pattern
    return false
  else return openRange

/-- The dots of a range; `obsolete` admits three dots. Tells whether the end is included. -/
def rangeDots (obsolete : Bool) : Rule Bool := do
  if ← punct? "..=" then return true
  else if ← ahead (isPunct "...") then
    require obsolete
    punct "..."
    return true
  else
    punct ".."
    return false

/-- A constant block. -/
def constantBlock (g : Grammar) : Rule Unit := do
  word "const"
  let _ ← attributedBlock g

/-- The end of a range pattern, when there is one; tells whether there is. -/
def rangeBound (g : Grammar) : Rule Bool := do
  if ← ahead fun trees =>
      trees.isEmpty || isPunct "|" trees || isPunct "=" trees ||
        (isPunct ":" trees && !isPunct "::" trees) || isPunct "," trees || isPunct ";" trees ||
        isWord "if" trees then
    return false
  else if ← ahead isLiteral then
    let _ ← literal
    return true
  else if ← ahead startsPath then
    let _ ← qualifiedPath g true
    return true
  else
    constantBlock g
    return true

/-- What follows the start of a range pattern; tells whether the end is open. -/
def rangeTail (g : Grammar) : Rule Bool := do
  let inclusive ← rangeDots true
  let bounded ← rangeBound g
  require (bounded || !inclusive)
  return !bounded

/-- Whether a named member of a record follows. -/
def member : Rule Bool := do
  if ← ahead isIdent then
    let _ ← ident
    return true
  else
    match ← literal with
    | .integer value "" =>
        require (value < Nat.pow 2 32)
        return false
    | _ => fail

/-- A field of a struct pattern. -/
def fieldPattern (g : Grammar) : Rule Unit := do
  let boxed ← word? "box"
  let byRef ← word? "ref"
  let mutable ← word? "mut"
  if boxed || byRef || mutable then
    let _ ← ident
  else
    let named ← member
    if !named || (← ahead (isPunct ":")) then
      punct ":"
      let _ ← alternatives g

/-- The fields of a struct pattern. -/
def fieldPatterns (g : Grammar) : Rule Unit :=
  loop (fun _ => do
    if ← atEnd then return .done ()
    let _ ← outerAttributes g
    if ← punct? ".." then return .done ()
    fieldPattern g
    if ← atEnd then return .done ()
    punct ","
    return .again ()) ()

/-- A pattern that starts with a path. -/
def pathPattern (g : Grammar) : Rule Bool := do
  let path ← qualifiedPath g true
  if !path.qualified && path.isPlain &&
      (← ahead fun trees => isPunct "!" trees && !isPunct "!=" trees) then
    punct "!"
    let _ ← macroArguments
    return false
  else if ← ahead (isGroup .brace) then
    within .brace (fieldPatterns g)
    return false
  else if ← ahead (isGroup .paren) then
    let _ ← within .paren (commaList (alternatives g))
    return false
  else if ← ahead (isPunct "..") then rangeTail g
  else return false

/-- A pattern that binds a name. -/
def bindingPattern (g : Grammar) : Rule Unit := do
  let _ ← word? "ref"
  let _ ← word? "mut"
  if ← ahead (isWord "self") then word "self"
  else
    let _ ← ident
  if ← punct? "@" then
    let _ ← g.pattern

/-- Whether a pattern that starts with a path can start here. -/
def startsPathPattern (trees : List Tree) : Bool :=
  (isIdent trees &&
      (second (isPunct "::") trees || second (isPunct "!") trees || second (isGroup .brace) trees ||
        second (isGroup .paren) trees || second (isPunct "..") trees)) ||
    (isWord "self" trees && second (isPunct "::") trees) ||
    isPunct "::" trees || isPunct "<" trees || isWord "Self" trees || isWord "super" trees ||
    isWord "crate" trees

/-- A pattern without alternatives. Nothing is collected from a `box` pattern. -/
def patternRule (g : Grammar) : Rule Bool := do
  if ← ahead startsPathPattern then pathPattern g
  else if ← word? "_" then return false
  else if ← word? "box" then
    let _ ← dropItems g.pattern
    return false
  else if ← ahead fun trees => isPunct "-" trees || isLiteral trees || isWord "const" trees then
    let bounded ← rangeBound g
    require bounded
    if ← ahead (isPunct "..") then rangeTail g
    else return false
  else if ← ahead fun trees =>
      isWord "ref" trees || isWord "mut" trees || isWord "self" trees || isIdent trees then
    bindingPattern g
    return false
  else if ← punct? "&" then
    let _ ← word? "mut"
    let _ ← g.pattern
    return false
  else if ← ahead (isGroup .paren) then
    let _ ← within .paren (commaList (alternatives g))
    return false
  else if ← ahead (isGroup .bracket) then
    let _ ← within .bracket (commaList do
      let openRange ← alternatives g
      require !openRange)
    return false
  else if ← ahead fun trees => isPunct ".." trees && !isPunct "..." trees then
    let inclusive ← rangeDots false
    let bounded ← rangeBound g
    require (bounded || !inclusive)
    return bounded
  else fail

end DocApi.Source.Grammar
