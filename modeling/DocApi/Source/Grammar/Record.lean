import DocApi.Source.Grammar.Statement

/-!
# Records and routines

The grammar of what items and their members are made of: visibility, the fields of records, the
signatures of functions, constants, type definitions and macro calls.
-/

namespace DocApi.Source.Grammar

open Rule

/-- The visibility of a declaration; tells whether one is given. A parenthesis after `pub` belongs
to it only when it names a scope. -/
def visibility : Rule Bool := do
  if ← word? "pub" then
    match ← lookahead (groupTrees .paren) with
    | some [.ident scope] =>
        if scope.isWord "crate" || scope.isWord "self" || scope.isWord "super" then
          let _ ← groupTrees .paren
    | some (.ident scope :: _) =>
        if scope.isWord "in" then
          within .paren do
            word "in"
            let _ ← wordPath
    | _ => return true
    return true
  else return false

/-! ## Fields -/

/-- A field with a name. A field that is named by an underscore may declare its own fields. -/
def namedField (g : Grammar) : Rule Field := do
  let attributes ← outerAttributes g
  let _ ← visibility
  let unnamed ← ahead (isWord "_")
  let name ← if unnamed then anyIdent else ident
  punct ":"
  if unnamed && (← ahead fun trees =>
      isWord "struct" trees || (isWord "union" trees && second (isGroup .brace) trees)) then
    let _ ← anyIdent
    let _ ← within .brace g.fields
    return ⟨attributes, some name, .other⟩
  else return ⟨attributes, some name, (← g.type true).type⟩

/-- The named fields of a record. -/
def fieldsRule (g : Grammar) : Rule (List Field) := commaList (namedField g)

/-- A field of a tuple. -/
def tupleField (g : Grammar) : Rule Field := do
  let attributes ← outerAttributes g
  let _ ← visibility
  return ⟨attributes, none, (← g.type true).type⟩

/-- A variant of an enumeration. -/
def variant (g : Grammar) : Rule Variant := do
  let attributes ← outerAttributes g
  let _ ← visibility
  let _ ← ident
  let fields ←
    if ← ahead (isGroup .brace) then within .brace g.fields
    else if ← ahead (isGroup .paren) then within .paren (commaList (tupleField g))
    else pure []
  if ← punct? "=" then
    let _ ← g.expr true
  return ⟨attributes, fields⟩

/-- A struct after its visibility. -/
def structRecord (g : Grammar) : Rule (Ident × RecordBody) := do
  word "struct"
  let name ← ident
  let _ ← genericParameters g
  let filtered ← whereClause? g
  if !filtered && (← ahead (isGroup .paren)) then
    let fields ← within .paren (commaList (tupleField g))
    let _ ← whereClause? g
    punct ";"
    return (name, .struct fields)
  else if ← ahead (isGroup .brace) then
    return (name, .struct (← within .brace g.fields))
  else
    punct ";"
    return (name, .struct [])

/-- An enumeration after its visibility. -/
def enumRecord (g : Grammar) : Rule (Ident × RecordBody) := do
  word "enum"
  let name ← ident
  let _ ← genericParameters g
  let _ ← whereClause? g
  return (name, .enumeration (← within .brace (commaList (variant g))))

/-- A union after its visibility. -/
def unionRecord (g : Grammar) : Rule (Ident × RecordBody) := do
  word "union"
  let name ← ident
  let _ ← genericParameters g
  let _ ← whereClause? g
  return (name, .union (← within .brace g.fields))

/-! ## Functions -/

/-- A parameter that stands for the value of a method. A path that starts with `self` is none. -/
def receiver (g : Grammar) : Rule Unit := do
  let reference ← punct? "&"
  if reference then lifetime?
  let _ ← word? "mut"
  word "self"
  require !(← ahead (isPunct "::"))
  if !reference && (← punct? ":") then
    let _ ← g.type true

/-- The kinds of parameters. -/
inductive ParameterKind where
  | receiver | typed | variadic
deriving DecidableEq, Repr

/-- A parameter of a function after its attributes. -/
def parameter (g : Grammar) : Rule ParameterKind := do
  if ← punct? "..." then return .variadic
  match ← attempt (receiver g) with
  | some _ => return .receiver
  | none =>
      if ← ahead fun trees => isIdent trees && second (isPunct "<") trees then
        let _ ← g.type true
        return .typed
      else
        let _ ← g.pattern
        punct ":"
        if ← punct? "..." then return .variadic
        let _ ← g.type true
        return .typed

/-- The parameters of a function. Only the first can be a receiver, and only the last can stand
for any number of arguments. -/
def parameters (g : Grammar) : Rule Unit :=
  loop (fun first => do
    if ← atEnd then return .done ()
    let _ ← outerAttributes g
    let kind ← parameter g
    require (first || kind ≠ .receiver)
    if ← atEnd then return .done ()
    punct ","
    if kind = .variadic then return .done ()
    else return .again false) true

/-- The head of a function. -/
structure Signature where
  name : Ident
  /-- Whether it is marked as safe, which only foreign functions can be. -/
  safe : Bool

/-- The trees after a word, when they start with it. -/
def skipWord (word : String) (trees : List Tree) : List Tree :=
  if isWord word trees then trees.drop 1 else trees

/-- The trees after a calling convention, when they start with one. -/
def skipConvention (trees : List Tree) : List Tree :=
  if isWord "extern" trees then
    let trees := trees.drop 1
    if isText trees then trees.drop 1 else trees
  else trees

/-- Whether the head of a function starts here. -/
def startsSignature (allowSafe : Bool) (trees : List Tree) : Bool :=
  let trees := skipWord "async" (skipWord "const" trees)
  let trees :=
    if allowSafe && isWord "safe" trees then trees.drop 1 else skipWord "unsafe" trees
  isWord "fn" (skipConvention trees)

/-- The head of a function. -/
def signature (g : Grammar) (allowSafe : Bool) : Rule Signature := do
  let _ ← word? "const"
  let _ ← word? "async"
  let unsafety ← word? "unsafe"
  let safe ← if allowSafe && !unsafety then word? "safe" else pure false
  callingConvention?
  word "fn"
  let name ← ident
  let _ ← genericParameters g
  let (_, inside) ← capture do
    within .paren (parameters g)
    let _ ← returnType g true
  let _ ← whereClause? g
  collect inside
  return ⟨name, safe⟩

/-! ## Constants, types and macro calls -/

/-- What a constant declares. -/
structure ConstantForm where
  /-- Whether it has neither parameters nor conditions. -/
  simple : Bool
  /-- Whether it has a value. -/
  valued : Bool

/-- A constant from its keyword on. -/
def constant (g : Grammar) : Rule ConstantForm := do
  word "const"
  require (← ahead fun trees => isIdent trees || isWord "_" trees)
  let _ ← anyIdent
  let parametrized ← genericParameters g
  punct ":"
  let _ ← g.type true
  let valued ← punct? "="
  if valued then
    let _ ← g.expr true
  let filtered ← whereClause? g
  punct ";"
  return ⟨!parametrized && !filtered, valued⟩

/-- Where the conditions of a type definition stand. -/
inductive ConditionPlace where
  | beforeValue | afterValue | either
deriving DecidableEq, Repr

/-- What a type definition declares. -/
structure TypeDefinition where
  name : Ident
  /-- Whether bounds are given. -/
  bounded : Bool
  /-- Whether it has a value. -/
  valued : Bool

/-- A type definition. -/
def typeDefinition (g : Grammar) (allowDefault : Bool) (place : ConditionPlace) :
    Rule TypeDefinition := do
  let _ ← visibility
  if allowDefault then
    let _ ← word? "default"
  word "type"
  let name ← ident
  let _ ← genericParameters g
  let (bounded, inBounds) ← capture do
    let bounded ← punct? ":"
    if bounded then
      boundsUntil g true fun trees => isWord "where" trees || isPunct "=" trees || isPunct ";" trees
    return bounded
  let early ← if place = .afterValue then pure false else whereClause? g
  let (valued, inValue) ← capture do
    let valued ← punct? "="
    if valued then
      let _ ← g.type true
    return valued
  if place = .afterValue || (place = .either && !early) then
    let _ ← whereClause? g
  punct ";"
  collect (inBounds ++ inValue)
  return ⟨name, bounded, valued⟩

/-- Whether the path of a macro call can start here. -/
def startsCall (trees : List Tree) : Bool :=
  isIdent trees || isWord "self" trees || isWord "super" trees || isWord "crate" trees ||
    isPunct "::" trees

/-- A macro call that declares something; `named` allows a name before its arguments. Unless the
arguments stand in braces, a semicolon ends it. -/
def macroCall (named : Bool) : Rule Unit := do
  let _ ← wordPath
  punct "!"
  if named && (← ahead fun trees => isIdent trees || isWord "try" trees) then
    let _ ← anyIdent
  if (← macroArguments) ≠ .brace then punct ";"

end DocApi.Source.Grammar
