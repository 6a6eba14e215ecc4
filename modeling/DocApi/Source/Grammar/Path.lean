import DocApi.Source.Grammar.Attribute

/-!
# Paths

A path is a chain of segments with `::` in between, each with arguments in angle brackets. In
expressions the angle brackets need `::` before them.
-/

namespace DocApi.Source.Grammar

open Rule

/-- The arguments of a path segment. -/
inductive SegmentArguments where
  | none
  /-- Arguments in angle brackets: the types among them, and whether there are none at all. -/
  | angle (types : List Ty) (empty : Bool)

/-- A segment of a path. -/
structure Segment where
  name : Ident
  arguments : SegmentArguments

/-- A path. -/
structure PathForm where
  /-- Whether it starts with a type in angle brackets. -/
  qualified : Bool
  /-- Whether it starts with `::`. -/
  rooted : Bool
  /-- All segments but the last, in reverse. -/
  before : List Segment
  last : Segment

namespace PathForm

/-- Whether no segment has arguments. -/
def isPlain (path : PathForm) : Bool :=
  (path.last :: path.before).all fun segment =>
    match segment.arguments with
    | .none => true
    | _ => false

/-- Whether the last segment has no arguments between its brackets. -/
def lastIsEmpty (path : PathForm) : Bool :=
  match path.last.arguments with
  | .none => true
  | .angle _ empty => empty

/-- The path with one more segment. -/
def push (path : PathForm) (segment : Segment) : PathForm :=
  { path with before := path.last :: path.before, last := segment }

/-- The type that a path names. -/
def toType (path : PathForm) : TypeForm :=
  if path.qualified then ⟨.other, .other⟩
  else
    let types := match path.last.arguments with
      | .angle types _ => types
      | .none => []
    ⟨.path (path.before.reverse.map Segment.name) path.last.name types,
      .path (!path.rooted && path.before.isEmpty)⟩

end PathForm

/-- A block in braces without attributes of its own. -/
def block (g : Grammar) : Rule Unit := within .brace g.statements

/-- A block that may have attributes of its own. -/
def attributedBlock (g : Grammar) : Rule (List Attribute) :=
  within .brace do
    let attributes ← innerAttributes g
    g.statements
    return attributes

/-- A constant as an argument. -/
def constantArgument (g : Grammar) : Rule Unit := do
  if ← ahead isLiteral then
    let _ ← literal
  else if ← ahead isIdent then
    let _ ← ident
  else
    let _ ← attributedBlock g

/-- Bounds separated by `+` until `stop` holds. -/
def boundsUntil (g : Grammar) (allowConst : Bool) (stop : List Tree → Bool) : Rule Unit :=
  loop (fun _ => do
    if ← ahead stop then return .done ()
    let _ ← g.bound false allowConst
    if ← punct? "+" then return .again ()
    else return .done ()) ()

/-- An argument in angle brackets; gives the type when it is one. -/
def genericArgument (g : Grammar) : Rule (Option Ty) := do
  if ← ahead fun trees => isLifetime trees && !second (isPunct "+") trees then
    lifetime
    return none
  else if ← ahead fun trees => isLiteral trees || isGroup .brace trees then
    constantArgument g
    return none
  else
    let form ← g.type true
    if form.shape = .path true then
      if ← punct? "=" then
        if ← ahead fun trees => isLiteral trees || isGroup .brace trees then constantArgument g
        else
          let _ ← g.type true
        return none
      else if ← punct? ":" then
        boundsUntil g true fun trees => isPunct "," trees || isPunct ">" trees
        return none
      else return some form.type
    else return some form.type

/-- Arguments in angle brackets. -/
def angleArguments (g : Grammar) : Rule SegmentArguments := do
  punct "<"
  let arguments ← loop (fun found => do
    if ← ahead (isPunct ">") then return .done found.reverse
    let argument ← genericArgument g
    if ← ahead (isPunct ">") then return .done (argument :: found).reverse
    punct ","
    return .again (argument :: found)) []
  punct ">"
  return .angle (arguments.filterMap id) arguments.isEmpty

/-- A segment of a path. -/
def segment (g : Grammar) (inExpr : Bool) : Rule Segment := do
  if ← ahead fun trees =>
      isWord "super" trees || isWord "self" trees || isWord "crate" trees || isWord "try" trees then
    return ⟨← anyIdent, .none⟩
  let name ← if ← ahead (isWord "Self") then anyIdent else ident
  if ← ahead fun trees =>
      (!inExpr && isPunct "<" trees && !isPunct "<=" trees && !isPunct "<<=" trees) ||
        (isPunct "::" trees && third (isPunct "<") trees) then
    let _ ← punct? "::"
    return ⟨name, ← angleArguments g⟩
  else return ⟨name, .none⟩

/-- A path without a qualified self type. -/
def plainPath (g : Grammar) (inExpr : Bool) : Rule PathForm := do
  let rooted ← punct? "::"
  let first ← segment g inExpr
  loop (fun path => do
    if ← ahead fun trees => isPunct "::" trees && !third (isGroup .paren) trees then
      punct "::"
      return .again (path.push (← segment g inExpr))
    else return .done path) ⟨false, rooted, [], first⟩

/-- A path that may start with a type in angle brackets. -/
def qualifiedPath (g : Grammar) (inExpr : Bool) : Rule PathForm := do
  if ← ahead (isPunct "<") then
    punct "<"
    let _ ← g.type true
    if ← word? "as" then
      let _ ← plainPath g false
    punct ">"
    punct "::"
    let first ← segment g inExpr
    loop (fun path => do
      if ← punct? "::" then return .again (path.push (← segment g inExpr))
      else return .done path) ⟨true, false, [], first⟩
  else plainPath g inExpr

/-- Whether an angle bracket starts parameters and not a qualified path. A single name between the
brackets is a parameter. -/
def startsParameters (trees : List Tree) : Bool :=
  isPunct "<" trees &&
    (second (isPunct ">") trees || second (isPunct "#") trees || second (isWord "const") trees ||
      ((second isLifetime trees || second isIdent trees) &&
        (third (isPunct ">") trees || third (isPunct ",") trees ||
          (third (isPunct ":") trees && !third (isPunct "::") trees) ||
          third (isPunct "=") trees)))

/-- Whether a form that has no meaning of its own starts here. -/
def startsBuiltin (trees : List Tree) : Bool :=
  isWord "builtin" trees && second (isPunct "#") trees

/-- A form that has no meaning of its own: a name with arguments that are kept as they are. -/
def builtinForm : Rule Unit := do
  word "builtin"
  punct "#"
  let _ ← ident
  let _ ← groupTrees .paren

/-- The arguments of a macro call. -/
def macroArguments : Rule Delimiter := do return (← anyGroup).1

end DocApi.Source.Grammar
