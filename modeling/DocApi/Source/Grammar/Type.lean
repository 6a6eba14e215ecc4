import DocApi.Source.Grammar.Path

/-!
# Types

The grammar of types, with the bounds and parameters of generic declarations.
-/

namespace DocApi.Source.Grammar

open Rule

/-- Whether trees start with a string literal. -/
def isText : List Tree → Bool
  | .literal (.text _) :: _ => true
  | _ => false

/-- The calling convention of a function, when it is given. -/
def callingConvention? : Rule Unit := do
  if ← word? "extern" then
    if ← ahead isText then
      let _ ← text

/-- The type after an arrow, when there is one. -/
def returnType (g : Grammar) (allowPlus : Bool) : Rule (Option TypeForm) := do
  if ← punct? "->" then return some (← g.type allowPlus)
  else return none

/-- The bounds of a lifetime after its colon. -/
def lifetimeBounds (stop : List Tree → Bool) : Rule Unit :=
  loop (fun _ => do
    if ← ahead stop then return .done ()
    lifetime
    if ← punct? "+" then return .again ()
    else return .done ()) ()

/-- A parameter of a generic declaration; an underscore is one only where `allowWild` holds. -/
def genericParameter (g : Grammar) (allowWild : Bool) : Rule Unit := do
  let _ ← outerAttributes g
  if ← ahead isLifetime then
    lifetime
    if ← punct? ":" then
      lifetimeBounds fun trees => trees.isEmpty || isPunct "," trees || isPunct ">" trees
  else if ← ahead isIdent then
    let _ ← ident
    if ← punct? ":" then
      boundsUntil g true fun trees =>
        trees.isEmpty || isPunct "," trees || isPunct ">" trees || isPunct "=" trees
    if ← punct? "=" then
      let _ ← g.type true
  else if ← ahead (isWord "const") then
    word "const"
    let _ ← ident
    punct ":"
    let _ ← g.type true
    if ← punct? "=" then constantArgument g
  else if allowWild then word "_"
  else fail

/-- The parameters of a generic declaration; tells whether there is a list of them. -/
def genericParameters (g : Grammar) : Rule Bool := do
  if ← punct? "<" then
    loop (fun _ => do
      if ← ahead (isPunct ">") then return .done ()
      genericParameter g true
      if ← ahead (isPunct ">") then return .done ()
      punct ","
      return .again ()) ()
    punct ">"
    return true
  else return false

/-- The lifetimes bound by `for`, when there are any; tells whether there are. -/
def boundLifetimes? (g : Grammar) : Rule Bool := do
  if ← word? "for" then
    punct "<"
    loop (fun _ => do
      if ← ahead (isPunct ">") then return .done ()
      genericParameter g false
      if ← ahead (isPunct ">") then return .done ()
      punct ","
      return .again ()) ()
    punct ">"
    return true
  else return false

/-- Where the bounds of a where clause end. -/
def endsPredicate (trees : List Tree) : Bool :=
  trees.isEmpty || isGroup .brace trees || isPunct "," trees || isPunct ";" trees ||
    (isPunct ":" trees && !isPunct "::" trees) || isPunct "=" trees

/-- One condition of a where clause. -/
def wherePredicate (g : Grammar) : Rule Unit := do
  if ← ahead fun trees => isLifetime trees && second (isPunct ":") trees then
    lifetime
    punct ":"
    lifetimeBounds fun trees =>
      trees.isEmpty || isGroup .brace trees || isPunct "," trees || isPunct ";" trees ||
        isPunct ":" trees || isPunct "=" trees
  else
    let _ ← boundLifetimes? g
    let _ ← g.type true
    punct ":"
    boundsUntil g true endsPredicate

/-- A where clause, when there is one; tells whether there is. It cannot start with parameters. -/
def whereClause? (g : Grammar) : Rule Bool := do
  if ← word? "where" then
    require !(← ahead startsParameters)
    loop (fun _ => do
      if ← ahead endsPredicate then return .done ()
      wherePredicate g
      if ← punct? "," then return .again ()
      else return .done ()) ()
    return true
  else return false

/-- Arguments in parentheses and what they return. -/
def parenArguments (g : Grammar) : Rule Unit := do
  let _ ← within .paren (commaList (g.type true))
  let _ ← returnType g false

/-- Whether arguments in parentheses follow a path. -/
def parenAhead (trees : List Tree) : Bool :=
  isGroup .paren trees || (isPunct "::" trees && third (isGroup .paren) trees)

/-- The parameters that an opaque type captures. -/
def capturedParameters : Rule Unit := do
  word "use"
  punct "<"
  loop (fun _ => do
    if ← ahead (isPunct ">") then return .done ()
    if ← ahead isLifetime then lifetime
    else if ← ahead fun trees => isIdent trees || isWord "Self" trees then
      let _ ← anyIdent
    else fail
    if ← ahead (isPunct ">") then return .done ()
    punct ","
    return .again ()) ()
  punct ">"

/-- The mark of a constant trait, which may stand in brackets; tells whether there is one. -/
def constantMark : Rule Bool := do
  if ← ahead (isGroup .bracket) then
    within .bracket (word "const")
    return true
  else word? "const"

/-- A trait as a bound; tells whether it is marked as constant. A question mark does not go with
bound lifetimes. -/
def traitBound (g : Grammar) (allowConst : Bool) : Rule Bool := do
  let early ← boundLifetimes? g
  let constant ← constantMark
  require (allowConst || !constant)
  let maybe ← punct? "?"
  let late ← if maybe && !early then boundLifetimes? g else pure false
  let path ← plainPath g false
  if path.lastIsEmpty && (← ahead parenAhead) then
    let _ ← punct? "::"
    parenArguments g
  require !(maybe && (early || late))
  return constant

/-- A bound of a type parameter; tells whether it is a trait. Nothing is collected from a constant
one. -/
def boundRule (g : Grammar) (allowCapture allowConst : Bool) : Rule Bool := do
  if ← ahead isLifetime then
    lifetime
    return false
  else if ← ahead (isWord "use") then
    capturedParameters
    require allowCapture
    return false
  else
    let (constant, inside) ← capture do
      if ← ahead (isGroup .paren) then within .paren (traitBound g allowConst)
      else traitBound g allowConst
    if !constant then collect inside
    return true

/-- Whether a further bound can start here. -/
def startsBound (allowConst : Bool) (trees : List Tree) : Bool :=
  isAnyIdent trees || isPunct "::" trees || isPunct "?" trees || isLifetime trees ||
    isGroup .paren trees || (allowConst && (isGroup .bracket trees || isWord "const" trees))

/-- The bounds of a trait object or opaque type, of which one must be a trait. -/
def objectBounds (g : Grammar) (allowPlus allowCapture allowConst : Bool) : Rule Unit := do
  let hasTrait ← loop (fun hasTrait => do
    let hasTrait := (← g.bound allowCapture allowConst) || hasTrait
    if allowPlus && (← punct? "+") then
      if ← ahead (startsBound allowConst) then return .again hasTrait
      else return .done hasTrait
    else return .done hasTrait) false
  require hasTrait

/-- Further bounds, each after a `+`. -/
def plusBounds (g : Grammar) : Rule Unit :=
  loop (fun _ => do
    if ← punct? "+" then
      let _ ← g.bound false false
      return .again ()
    else return .done ()) ()

/-- What parentheses enclose in a type. -/
inductive ParenContent where
  /-- The unit type, a tuple, or a sum of bounds. -/
  | closed
  /-- A bound that starts with a question mark. -/
  | maybe
  /-- One type. -/
  | single (form : TypeForm)

/-- The content of parentheses in a type. -/
def parenContent (g : Grammar) : Rule ParenContent := do
  if ← atEnd then return .closed
  else if ← ahead isLifetime then
    objectBounds g true false false
    return .closed
  else if ← ahead (isPunct "?") then
    let _ ← traitBound g false
    return .maybe
  else
    let first ← g.type true
    if ← punct? "," then
      let _ ← commaList (g.type true)
      return .closed
    else return .single first

/-- A type that starts with parentheses. -/
def parenType (g : Grammar) (allowPlus : Bool) : Rule TypeForm := do
  match ← within .paren (parenContent g) with
  | .closed => return ⟨.other, .other⟩
  | .maybe =>
      let alone := !(← ahead (isPunct "+"))
      plusBounds g
      return ⟨.other, if alone then .bound else .other⟩
  | .single form =>
      let summand := match form.shape with
        | .path _ | .bound => true
        | _ => false
      if allowPlus && summand && (← ahead (isPunct "+")) then
        plusBounds g
        return ⟨.other, .other⟩
      else return ⟨.parenthesized form.type, .other⟩

/-- A parameter of a function type. Nothing is collected from the type of a mutable `self`. -/
def functionTypeParameter (g : Grammar) (allowSelf : Bool) : Rule Unit := do
  let _ ← outerAttributes g
  let mutSelf ← ahead fun trees => allowSelf && isWord "mut" trees && second (isWord "self") trees
  if mutSelf then word "mut"
  let hasSelf ← ahead fun trees => allowSelf && isWord "self" trees
  let named ← ahead fun trees =>
    (isIdent trees || isWord "_" trees || hasSelf) && second (isPunct ":") trees &&
      !second (isPunct "::") trees
  if named then
    let _ ← anyIdent
    punct ":"
  if ← ahead fun trees =>
      allowSelf && !(named && hasSelf) && isWord "mut" trees && second (isWord "self") trees then
    word "mut"
    word "self"
  else if mutSelf && !named then word "self"
  else
    let _ ← if mutSelf then dropItems (g.type true) else g.type true

/-- Whether the parameters of a function type end with dots here. -/
def variadicAhead (trees : List Tree) : Bool :=
  isPunct "..." trees ||
    ((isIdent trees || isWord "_" trees) && second (isPunct ":") trees &&
      third (isPunct "...") trees)

/-- The type of a function. -/
def functionType (g : Grammar) : Rule Unit := do
  let _ ← boundLifetimes? g
  let _ ← word? "unsafe"
  callingConvention?
  word "fn"
  within .paren (loop (fun first => do
    if ← atEnd then return .done ()
    let _ ← outerAttributes g
    if ← ahead variadicAhead then
      if ← ahead fun trees => isIdent trees || isWord "_" trees then
        let _ ← anyIdent
        punct ":"
      punct "..."
      let _ ← punct? ","
      return .done ()
    functionTypeParameter g first
    if ← atEnd then return .done ()
    punct ","
    return .again false) true)
  let _ ← returnType g false

/-- A type that starts with a path. -/
def pathType (g : Grammar) (allowPlus bound : Bool) : Rule TypeForm := do
  let path ← qualifiedPath g false
  if path.qualified then return path.toType
  else if path.isPlain && (← ahead fun trees => isPunct "!" trees && !isPunct "!=" trees) then
    punct "!"
    let _ ← macroArguments
    return ⟨.other, .other⟩
  else
    let sum ← ahead (isPunct "+")
    if bound || (allowPlus && sum) then
      if allowPlus then
        loop (fun _ => do
          if ← punct? "+" then
            if ← ahead (startsBound false) then
              let _ ← g.bound false false
              return .again ()
            else return .done ()
          else return .done ()) ()
      return ⟨.other, if allowPlus && sum then .other else .bound⟩
    else return path.toType

/-- Whether a path can start here. -/
def startsPath (trees : List Tree) : Bool :=
  isIdent trees || isWord "super" trees || isWord "self" trees || isWord "Self" trees ||
    isWord "crate" trees || isPunct "::" trees || isPunct "<" trees

/-- Whether a function type can start here. -/
def startsFunctionType (trees : List Tree) : Bool :=
  isWord "fn" trees || isWord "unsafe" trees || isWord "extern" trees

/-- A type. -/
def typeRule (g : Grammar) (allowPlus : Bool) : Rule TypeForm := do
  let bound ← boundLifetimes? g
  if bound then
    require (← ahead fun trees =>
      isIdent trees || startsFunctionType trees || isWord "super" trees || isWord "self" trees ||
        isWord "Self" trees || isWord "crate" trees)
  if ← ahead (isGroup .paren) then parenType g allowPlus
  else if ← ahead startsFunctionType then
    functionType g
    return ⟨.other, .other⟩
  else if ← ahead startsBuiltin then
    builtinForm
    return ⟨.other, .other⟩
  else if ← ahead startsPath then pathType g allowPlus bound
  else if ← word? "dyn" then
    let starred ← punct? "*"
    let bounds := objectBounds g allowPlus false false
    if starred then dropItems bounds else bounds
    return ⟨.other, .other⟩
  else if ← ahead (isGroup .bracket) then
    within .bracket do
      let element ← g.type true
      if ← punct? ";" then
        let _ ← g.expr true
        return ⟨.array element.type, .other⟩
      else return ⟨.slice element.type, .other⟩
  else if ← punct? "*" then
    if ← ahead (isWord "const") then word "const" else word "mut"
    let _ ← g.type false
    return ⟨.other, .other⟩
  else if ← punct? "&" then
    lifetime?
    let _ ← word? "mut"
    return ⟨.reference (← g.type false).type, .other⟩
  else if ← ahead fun trees => isPunct "!" trees && !isPunct "=" trees then
    punct "!"
    return ⟨.other, .other⟩
  else if ← word? "impl" then
    objectBounds g allowPlus true true
    return ⟨.other, .other⟩
  else if ← word? "_" then return ⟨.other, .other⟩
  else if ← ahead isLifetime then
    objectBounds g true false false
    return ⟨.other, .other⟩
  else fail

end DocApi.Source.Grammar
