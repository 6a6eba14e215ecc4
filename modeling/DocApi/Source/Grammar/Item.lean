import DocApi.Source.Grammar.Record

/-!
# Items

The grammar of items and their members. A form that is allowed by the grammar but declares nothing
by itself, such as a constant without a value, becomes an item without content.
-/

namespace DocApi.Source.Grammar

open Rule

/-- Attributes together with the items declared in them. -/
structure Head where
  attributes : List Attribute
  inside : List Item

/-- The attributes before an item. -/
def head (g : Grammar) : Rule Head := do
  let (attributes, inside) ← capture (outerAttributes g)
  return ⟨attributes, inside⟩

/-- An item that declares nothing by itself. It keeps the items declared in it when the rule says
so. -/
def silent (inAttributes : List Item) (rule : Rule Bool) : Rule Item := do
  let (kept, inside) ← capture rule
  return .other (if kept then inAttributes ++ inside else [])

/-- The attributes and members between the braces of a trait, an implementation or a module. -/
def members {α : Type} (g : Grammar) (member : Rule α) : Rule (Head × List α) :=
  within .brace do
    let (attributes, inside) ← capture (innerAttributes g)
    return (⟨attributes, inside⟩, ← untilEnd member)

/-! ## Functions, constants and imports -/

/-- A function. -/
def routineItem (g : Grammar) (head : Head) : Rule Item :=
  dropItems do
    let _ ← visibility
    let signature ← signature g false
    if ← punct? ";" then return .other []
    else return .routine (head.attributes ++ (← attributedBlock g)) signature.name

/-- A constant. -/
def constantItem (g : Grammar) (head : Head) : Rule Item := do
  let (form, inside) ← capture do
    let _ ← visibility
    constant g
  return if form.simple && form.valued then .plain head.attributes (head.inside ++ inside)
    else .other []

/-- A static. -/
def staticItem (g : Grammar) (head : Head) : Rule Item := do
  let (kept, inside) ← capture do
    let _ ← visibility
    word "static"
    let _ ← word? "mut"
    let _ ← ident
    let typed := !(← ahead (isPunct "="))
    if typed then
      punct ":"
      let _ ← g.type true
    if typed && (← ahead (isPunct ";")) then
      punct ";"
      return false
    else
      punct "="
      let _ ← g.expr true
      punct ";"
      return typed
  return if kept then .plain head.attributes (head.inside ++ inside) else .other []

/-- The tree of an import; tells whether it is well formed. A tree that starts with `::` inside of
braces is read but is not well formed. -/
def importTreeRule (g : Grammar) (allowRoot : Bool) : Rule Bool := do
  if ← ahead fun trees =>
      isIdent trees || isWord "self" trees || isWord "super" trees || isWord "crate" trees ||
        isWord "try" trees then
    let _ ← anyIdent
    if ← punct? "::" then g.importTree false
    else if ← word? "as" then
      if ← ahead (isWord "_") then word "_"
      else
        let _ ← ident
      return true
    else return true
  else if ← punct? "*" then return true
  else
    let trees ← within .brace (commaList do
      let rooted ← if allowRoot then punct? "::" else pure false
      return (← g.importTree (allowRoot && !rooted)) && !rooted)
    return trees.all id

/-- An import. -/
def importItem (g : Grammar) (head : Head) : Rule Item := do
  let _ ← visibility
  word "use"
  let rooted ← punct? "::"
  let wellFormed ← g.importTree !rooted
  punct ";"
  return if wellFormed then .plain head.attributes head.inside else .other []

/-- The import of a crate. -/
def crateItem (head : Head) : Rule Item := do
  let _ ← visibility
  word "extern"
  word "crate"
  if ← ahead (isWord "self") then word "self"
  else
    let _ ← ident
  if ← word? "as" then
    if ← ahead (isWord "_") then word "_"
    else
      let _ ← ident
  punct ";"
  return .other head.inside

/-! ## Foreign blocks -/

/-- A foreign function; tells whether it is of a form of its own. -/
def foreignFunction (g : Grammar) : Rule Bool := do
  let _ ← visibility
  let signature ← signature g true
  if ← ahead (isGroup .brace) then
    let _ ← attributedBlock g
    return false
  else
    punct ";"
    return !signature.safe

/-- A foreign static; tells whether it is of a form of its own. -/
def foreignStatic (g : Grammar) : Rule Bool := do
  let _ ← visibility
  let unsafety ← word? "unsafe"
  let safe ← if unsafety then pure false else word? "safe"
  word "static"
  let _ ← word? "mut"
  let _ ← ident
  punct ":"
  let _ ← g.type true
  let valued ← punct? "="
  if valued then
    let _ ← g.expr true
  punct ";"
  return !unsafety && !safe && !valued

/-- The visibility ahead, and the trees after it. -/
def visibilityAhead : Rule (Bool × List Tree) := do
  match ← lookahead (do return (← visibility, ← rest)) with
  | some found => return found
  | none => fail

/-- A member of a foreign block. -/
def foreignMember (g : Grammar) : Rule Item := do
  let head ← head g
  let (visible, next) ← visibilityAhead
  if startsSignature true next then silent head.inside (foreignFunction g)
  else if isWord "static" next ||
      ((isWord "unsafe" next || isWord "safe" next) && second (isWord "static") next) then
    silent head.inside (foreignStatic g)
  else if isWord "type" next then
    silent head.inside do
      let definition ← typeDefinition g false .either
      return !definition.bounded && !definition.valued
  else
    require (!visible && startsCall next)
    macroCall false
    return .other head.inside

/-- A foreign block. -/
def foreignItem (g : Grammar) (head : Head) : Rule Item := do
  let _ ← word? "unsafe"
  require (← ahead (isWord "extern"))
  callingConvention?
  let (inner, found) ← members g (foreignMember g)
  let inside := found.flatMap fun member =>
    match member with
    | .other inside => inside
    | _ => []
  return .other (head.inside ++ inner.inside ++ inside)

/-! ## Traits and implementations -/

/-- A function with a body or a semicolon, after its modifiers. -/
def methodMember (g : Grammar) (head : Head) : Rule Item :=
  dropItems do
    let signature ← signature g false
    if ← ahead (isGroup .brace) then
      return .method (head.attributes ++ (← attributedBlock g)) signature.name true
    else
      punct ";"
      return .method head.attributes signature.name false

/-- A member of a trait. -/
def traitMember (g : Grammar) : Rule Item := do
  let head ← head g
  let visible ← visibility
  let isDefault ← word? "default"
  let plain := !visible && !isDefault
  if ← ahead (startsSignature false) then
    let method ← methodMember g head
    return if plain then method else .other []
  else if ← ahead (isWord "const") then
    silent head.inside do
      let form ← constant g
      return plain && form.simple
  else if ← ahead (isWord "type") then
    silent head.inside do
      let _ ← typeDefinition g false .afterValue
      return plain
  else
    require (plain && (← ahead startsCall))
    macroCall false
    return .other head.inside

/-- A member of an implementation. -/
def implMember (g : Grammar) : Rule Item := do
  let head ← head g
  let (visible, next) ← visibilityAhead
  let isDefault := isWord "default" next && !second (isPunct "!") next
  let next := if isDefault then next.drop 1 else next
  if startsSignature false next then
    let _ ← visibility
    let _ ← word? "default"
    match ← methodMember g head with
    | .method attributes name true => return .method attributes name true
    | _ => return .other []
  else if isWord "const" next then
    silent head.inside do
      let _ ← visibility
      if isDefault then word "default"
      let form ← constant g
      return form.simple && form.valued
  else if isWord "type" next then
    silent head.inside do
      let definition ← typeDefinition g true .afterValue
      return !definition.bounded && definition.valued
  else
    require (!visible && !isDefault && startsCall next)
    macroCall false
    return .other head.inside

/-- A trait, or a name for a sum of bounds. -/
def traitItem (g : Grammar) (head : Head) : Rule Item := do
  let _ ← visibility
  let unsafety ← word? "unsafe"
  let auto ← word? "auto"
  word "trait"
  let _ ← ident
  let (_, inParameters) ← capture (genericParameters g)
  if !unsafety && !auto && (← punct? "=") then
    let (_, inBounds) ← capture (boundsUntil g false fun trees =>
      isWord "where" trees || isPunct ";" trees)
    let (_, inConditions) ← capture (whereClause? g)
    punct ";"
    return .other (head.inside ++ inParameters ++ inConditions ++ inBounds)
  else
    let (_, inBounds) ← capture do
      if ← punct? ":" then
        boundsUntil g true fun trees => isWord "where" trees || isGroup .brace trees
    let (_, inConditions) ← capture (whereClause? g)
    let (inner, members) ← members g (traitMember g)
    return .methods (head.attributes ++ inner.attributes)
      (head.inside ++ inner.inside ++ inParameters ++ inConditions ++ inBounds) members

/-- What an implementation is for; tells whether it is of an ordinary form. Only the
implementation of a trait can be negative. -/
def implTarget (g : Grammar) : Rule Bool := do
  let negative ← ahead fun trees => isPunct "!" trees && !second (isGroup .brace) trees
  if negative then punct "!"
  let first ← g.type true
  if ← word? "for" then
    let _ ← g.type true
    match first.shape with
    | .path _ => return true
    | _ => return false
  else
    require !negative
    return true

/-- An implementation. -/
def implItem (g : Grammar) (head : Head) : Rule Item := do
  let visible ← visibility
  let _ ← word? "default"
  let _ ← word? "unsafe"
  word "impl"
  let (_, inParameters) ← capture do
    if ← ahead startsParameters then
      let _ ← genericParameters g
  let constant ← ahead fun trees =>
    isWord "const" trees || (isPunct "?" trees && second (isWord "const") trees)
  if constant then
    let _ ← punct? "?"
    word "const"
  let (ordinary, inTarget) ← capture (implTarget g)
  let (_, inConditions) ← capture (whereClause? g)
  let (inner, members) ← members g (implMember g)
  if visible || constant || !ordinary then return .other []
  else
    return .methods (head.attributes ++ inner.attributes)
      (head.inside ++ inner.inside ++ inParameters ++ inConditions ++ inTarget) members

/-! ## Modules and records -/

/-- A module. -/
def moduleItem (g : Grammar) (head : Head) : Rule Item := do
  let _ ← visibility
  let _ ← word? "unsafe"
  word "mod"
  if ← ahead (isWord "try") then word "try"
  else
    let _ ← ident
  if ← punct? ";" then return .module head.attributes head.inside []
  else
    let (inner, items) ← members g g.item
    return .module (head.attributes ++ inner.attributes) (head.inside ++ inner.inside) items

/-- A struct, an enumeration or a union. -/
def recordItem (head : Head) (record : Rule (Ident × RecordBody)) : Rule Item :=
  dropItems do
    let _ ← visibility
    let (name, body) ← record
    return .record head.attributes name body

/-- A type alias. -/
def aliasItem (g : Grammar) (head : Head) : Rule Item :=
  dropItems do
    let definition ← typeDefinition g false .beforeValue
    return if definition.valued && !definition.bounded then
      .record head.attributes definition.name .alias
    else .other []

/-- The definition of a macro by its keyword. -/
def macroDefinition : Rule Item := do
  let _ ← visibility
  word "macro"
  let _ ← ident
  if ← ahead (isGroup .paren) then
    let _ ← groupTrees .paren
  let _ ← groupTrees .brace
  return .other []

/-- Whether an item that starts with `extern` is a foreign block. -/
def startsForeign (trees : List Tree) : Bool :=
  isWord "extern" trees &&
    (second (isGroup .brace) trees || (second isText trees && third (isGroup .brace) trees))

/-- An item. -/
def itemRule (g : Grammar) : Rule Item := do
  let head ← head g
  let (visible, next) ← visibilityAhead
  if startsSignature false next then routineItem g head
  else if isWord "extern" next && second (isWord "crate") next then crateItem head
  else if startsForeign next then foreignItem g head
  else if isWord "use" next then importItem g head
  else if isWord "static" next then staticItem g head
  else if isWord "const" next then constantItem g head
  else if isWord "unsafe" next then
    if second (isWord "trait") next ||
        (second (isWord "auto") next && third (isWord "trait") next) then
      traitItem g head
    else if second (isWord "impl") next then implItem g head
    else if second (isWord "extern") next then foreignItem g head
    else moduleItem g head
  else if isWord "mod" next then moduleItem g head
  else if isWord "type" next then aliasItem g head
  else if isWord "struct" next then recordItem head (structRecord g)
  else if isWord "enum" next then recordItem head (enumRecord g)
  else if isWord "union" next && second isIdent next then recordItem head (unionRecord g)
  else if isWord "trait" next || (isWord "auto" next && second (isWord "trait") next) then
    traitItem g head
  else if isWord "impl" next || (isWord "default" next && !second (isPunct "!") next) then
    implItem g head
  else if isWord "macro" next then macroDefinition
  else
    require (!visible && startsCall next)
    macroCall true
    return .other head.inside

end DocApi.Source.Grammar
