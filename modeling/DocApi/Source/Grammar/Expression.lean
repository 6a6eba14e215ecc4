import DocApi.Source.Grammar.Pattern

/-!
# Expressions

The grammar of expressions: operands with their trailing calls, fields and indices, and binary
operators by their binding strength.
-/

namespace DocApi.Source.Grammar

open Rule

/-! ## Operators -/

/-- The binary operators; an operator stands before those that start it. -/
def operatorTable : List (String × Precedence) :=
  [("+=", .assign), ("-=", .assign), ("*=", .assign), ("/=", .assign), ("%=", .assign),
    ("^=", .assign), ("&=", .assign), ("|=", .assign), ("<<=", .assign), (">>=", .assign),
    ("&&", .and), ("||", .or), ("<<", .shift), (">>", .shift), ("==", .compare), ("<=", .compare),
    ("!=", .compare), (">=", .compare), ("+", .sum), ("-", .sum), ("*", .product), ("/", .product),
    ("%", .product), ("^", .bitXor), ("&", .bitAnd), ("|", .bitOr), ("<", .compare),
    (">", .compare)]

/-- The binary operator that trees start with. -/
def operatorAhead (trees : List Tree) : Option (String × Precedence) :=
  operatorTable.find? fun operator => isPunct operator.1 trees

/-- The binding strength of what follows an operand. -/
def precedenceAhead (trees : List Tree) : Precedence :=
  match operatorAhead trees with
  | some (_, precedence) => precedence
  | none =>
      if isPunct "=" trees && !isPunct "=>" trees then .assign
      else if isPunct ".." trees then .range
      else if isWord "as" trees then .cast
      else .least

/-- The right operand of an operator, with the operators that bind more strongly. -/
def rightOperand (g : Grammar) (allowStruct : Bool) (precedence : Precedence) : Rule Unit := do
  let first ← g.operand allowStruct
  loop (fun right => do
    let before ← rest
    let next := precedenceAhead before
    if precedence.rank < next.rank || (next = precedence && precedence = .assign) then
      let right ← g.operators right allowStruct next
      if (← rest).length = before.length then return .done ()
      else return .again right
    else return .done ()) first

/-- Whether a range ends here without an upper bound. -/
def endsRange (allowStruct : Bool) (trees : List Tree) : Bool :=
  trees.isEmpty || isPunct "," trees || isPunct ";" trees ||
    (isPunct "." trees && !isPunct ".." trees) || isPunct "?" trees || isPunct "=>" trees ||
    (!allowStruct && isGroup .brace trees) ||
    ["=", "+", "/", "%", "^", ">", "<=", "!=", "-=", "*=", "&=", "|=", "<<="].any
      (isPunct · trees) ||
    isWord "as" trees

/-- A range from its dots on. -/
def rangeRest (g : Grammar) (allowStruct : Bool) : Rule Unit := do
  let inclusive ← rangeDots false
  if inclusive || !(← ahead (endsRange allowStruct)) then rightOperand g allowStruct .range

/-- Whether a cast is followed by what would belong to its operand. -/
def castEnds (trees : List Tree) : Bool :=
  !((isPunct "." trees && !isPunct ".." trees) || isPunct "?" trees || isGroup .bracket trees ||
    isGroup .paren trees)

/-- The operators after an operand that bind at least as strongly as `base`. -/
def operatorsRule (g : Grammar) (left : ExprShape) (allowStruct : Bool) (base : Precedence) :
    Rule ExprShape :=
  loop (fun left => do
    let trees ← rest
    if left = .range then return .done left
    match operatorAhead trees with
    | some (marks, precedence) =>
        if precedence.rank < base.rank then return .done left
        require !(precedence = .compare && left = .comparison)
        punct marks
        rightOperand g allowStruct precedence
        return .again (if precedence = .compare then .comparison else .other)
    | none =>
        if base.rank ≤ Precedence.assign.rank && isPunct "=" trees && !isPunct "=>" trees then
          punct "="
          rightOperand g allowStruct .assign
          return .again .other
        else if base.rank ≤ Precedence.range.rank && isPunct ".." trees then
          rangeRest g allowStruct
          return .again .range
        else if isWord "as" trees then
          word "as"
          let _ ← g.type false
          require (← ahead castEnds)
          return .again .other
        else return .done left) left

/-! ## Operands -/

/-- Whether an expression can start here. -/
def startsExpr (trees : List Tree) : Bool :=
  (isAnyIdent trees && !isWord "as" trees) ||
    isGroup .paren trees || isGroup .bracket trees || isGroup .brace trees ||
    isLiteral trees ||
    (isPunct "!" trees && !isPunct "!=" trees) ||
    (isPunct "-" trees && !isPunct "-=" trees && !isPunct "->" trees) ||
    (isPunct "*" trees && !isPunct "*=" trees) ||
    (isPunct "|" trees && !isPunct "|=" trees) ||
    (isPunct "&" trees && !isPunct "&=" trees) ||
    isPunct ".." trees ||
    (isPunct "<" trees && !isPunct "<=" trees && !isPunct "<<=" trees) ||
    isPunct "::" trees || isLifetime trees || isPunct "#" trees

/-- The value of a flow of control such as `return`, when there is one. -/
def optionalValue (g : Grammar) : Rule Unit := do
  if ← ahead startsExpr then
    let _ ← g.expr true

/-- Whether a text consists of digits and underscores, starts with a digit and fits 32 bits. -/
def isTupleIndex (part : List Char) : Bool :=
  match part with
  | [] => false
  | c :: _ =>
      c.isDigit && part.all (fun c => c.isDigit || c == '_') &&
        (part.filter Char.isDigit).foldl
          (fun value c => value * 10 + (c.toNat - '0'.toNat)) 0 < Nat.pow 2 32

/-- The pieces of a text between its points. -/
def pointPieces : List Char → List (List Char)
  | [] => [[]]
  | '.' :: text => [] :: pointPieces text
  | c :: text =>
      match pointPieces text with
      | [] => [[c]]
      | piece :: pieces => (c :: piece) :: pieces

/-- Reads a number with a point as two tuple indices. Tells whether the number ends with its
point. -/
def tupleIndices (spelling : String) : Rule Bool := do
  let pieces := pointPieces spelling.toList
  let trailing := pieces.getLast?.any List.isEmpty
  let pieces := if trailing then pieces.dropLast else pieces
  require (pieces.all isTupleIndex)
  return trailing

/-- A field, method call or `await` after a point. -/
def afterPoint (g : Grammar) : Rule Unit := do
  let finished ← match ← rest with
    | .literal (.float spelling) :: _ => do
        let _ ← literal
        pure !(← tupleIndices spelling)
    | _ => pure false
  if finished then return ()
  if ← word? "await" then return ()
  let named ← member
  let turbofish ← ahead fun trees => named && isPunct "::" trees
  if turbofish then
    punct "::"
    let _ ← angleArguments g
  if named && (turbofish || (← ahead (isGroup .paren))) then
    let _ ← within .paren (commaList (g.expr true))

/-- The calls, fields and indices after an operand. -/
def trailers (g : Grammar) (operand : ExprShape) : Rule ExprShape :=
  loop (fun operand => do
    if ← ahead (isGroup .paren) then
      let _ ← within .paren (commaList (g.expr true))
      return .again .other
    else if operand ≠ .range && (← ahead fun trees => isPunct "." trees && !isPunct ".." trees) then
      punct "."
      afterPoint g
      return .again .other
    else if ← ahead (isGroup .bracket) then
      let _ ← within .bracket (g.expr true)
      return .again .other
    else if operand ≠ .range && (← punct? "?") then return .again .other
    else return .done operand) operand

/-- A field of a struct literal. -/
def fieldValue (g : Grammar) : Rule Unit := do
  let _ ← outerAttributes g
  let named ← member
  if !named || (← ahead (isPunct ":")) then
    punct ":"
    let _ ← g.expr true

/-- The fields of a struct literal. -/
def fieldValues (g : Grammar) : Rule Unit :=
  loop (fun _ => do
    if ← atEnd then return .done ()
    if ← punct? ".." then
      if !(← atEnd) then
        let _ ← g.expr true
      return .done ()
    fieldValue g
    if ← atEnd then return .done ()
    punct ","
    return .again ()) ()

/-- An operand that starts with a path. -/
def pathOperand (g : Grammar) (allowStruct : Bool) : Rule ExprShape := do
  let path ← qualifiedPath g true
  if !path.qualified && path.isPlain &&
      (← ahead fun trees => isPunct "!" trees && !isPunct "!=" trees) then
    punct "!"
    let delimiter ← macroArguments
    return .call (delimiter = .brace)
  else if allowStruct && (← ahead (isGroup .brace)) then
    within .brace (fieldValues g)
    return .other
  else return .other

/-- What brackets enclose in an expression. -/
def arrayContent (g : Grammar) : Rule Unit := do
  if !(← atEnd) then
    let _ ← g.expr true
    if ← punct? ";" then
      let _ ← g.expr true
    else if !(← atEnd) then
      punct ","
      let _ ← commaList (g.expr true)

/-- What parentheses enclose in an expression. -/
def parenExpr (g : Grammar) : Rule Unit := do
  if !(← atEnd) then
    let _ ← g.expr true
    if !(← atEnd) then
      punct ","
      let _ ← commaList (g.expr true)

/-- Whether a parameter of a closure is a constant block and nothing else. -/
def isConstantParameter (trees : List Tree) : Bool :=
  isWord "const" trees && second (isGroup .brace) trees && !third (isPunct "..") trees &&
    !third (isPunct ":") trees

/-- A parameter of a closure. Unless it has a type, the attributes before a constant block replace
those within, and those before a `box` pattern are dropped. -/
def closureParameter (g : Grammar) : Rule Unit := do
  let (_, inAttributes) ← capture (outerAttributes g)
  let boxed ← ahead (isWord "box")
  let (_, inPattern) ← capture do
    if ← ahead isConstantParameter then
      word "const"
      within .brace do
        let _ ← dropItems (innerAttributes g)
        g.statements
    else
      let _ ← g.pattern
  let typed ← punct? ":"
  if typed || !boxed then collect inAttributes
  collect inPattern
  if typed then
    let _ ← g.type true

/-- A closure. -/
def closure (g : Grammar) (allowStruct : Bool) : Rule Unit := do
  let _ ← boundLifetimes? g
  let _ ← word? "const"
  let _ ← word? "static"
  let _ ← word? "async"
  let _ ← word? "move"
  punct "|"
  loop (fun _ => do
    if ← ahead (isPunct "|") then return .done ()
    closureParameter g
    if ← ahead (isPunct "|") then return .done ()
    punct ","
    return .again ()) ()
  punct "|"
  if ← punct? "->" then
    let _ ← g.type true
    block g
  else
    let _ ← g.expr allowStruct

/-- A conditional with its alternatives. -/
def conditional (g : Grammar) : Rule Unit :=
  loop (fun _ => do
    word "if"
    let _ ← g.expr false
    block g
    if ← word? "else" then
      if ← ahead (isWord "if") then return .again ()
      block g
      return .done ()
    else return .done ()) ()

/-- A form with a head and a body in braces. The attributes at the start of the body belong to the
whole, so that the items in them are collected before those in the head. -/
def headedForm (g : Grammar) (head body : Rule Unit) : Rule Unit := do
  let (_, inHead) ← capture head
  within .brace do
    let _ ← innerAttributes g
    collect inHead
    body

/-- A loop over the values of an expression. -/
def forLoop (g : Grammar) : Rule Unit :=
  headedForm g (do
    word "for"
    let _ ← alternatives g
    word "in"
    let _ ← g.expr false) g.statements

/-- A loop with a condition. -/
def whileLoop (g : Grammar) : Rule Unit :=
  headedForm g (do
    word "while"
    let _ ← g.expr false) g.statements

/-- A loop without a condition. -/
def endlessLoop (g : Grammar) : Rule Unit := do
  word "loop"
  let _ ← attributedBlock g

/-- One arm of a match. -/
def matchArm (g : Grammar) : Rule Unit := do
  let _ ← outerAttributes g
  let _ ← alternatives g
  if ← word? "if" then
    let _ ← g.expr true
  punct "=>"
  let body ← g.statementExpr
  if body ≠ .block && !(← atEnd) then punct ","
  else
    let _ ← punct? ","

/-- A match. -/
def matchExpr (g : Grammar) : Rule Unit :=
  headedForm g (do
    word "match"
    let _ ← g.expr false) (do
    let _ ← untilEnd (matchArm g))

/-- A condition that binds names. -/
def letExpr (g : Grammar) (allowStruct : Bool) : Rule Unit := do
  word "let"
  let _ ← alternatives g
  punct "="
  let first ← g.operand allowStruct
  let _ ← g.operators first allowStruct .compare

/-- A label and the loop or block it names. -/
def labeled (g : Grammar) : Rule Unit := do
  lifetime
  punct ":"
  if ← ahead (isWord "while") then whileLoop g
  else if ← ahead (isWord "for") then forLoop g
  else if ← ahead (isWord "loop") then endlessLoop g
  else
    let _ ← attributedBlock g

/-- A jump out of a loop. -/
def breakExpr (g : Grammar) (allowStruct : Bool) : Rule Unit := do
  word "break"
  require !(← ahead fun trees => isLifetime trees && second (isPunct ":") trees)
  lifetime?
  if ← ahead fun trees => startsExpr trees && (allowStruct || !isGroup .brace trees) then
    let _ ← g.expr true

/-- Whether `for` binds the parameters of a closure here. -/
def startsBinder (trees : List Tree) : Bool := isWord "for" trees && second startsParameters trees

/-- Whether a closure can start here. -/
def startsClosure (trees : List Tree) : Bool :=
  isPunct "|" trees || isWord "move" trees || startsBinder trees ||
    (isWord "const" trees && !second (isGroup .brace) trees) || isWord "static" trees ||
    (isWord "async" trees && (second (isPunct "|") trees || second (isWord "move") trees))

/-- An operand without what follows it. -/
def atom (g : Grammar) (allowStruct : Bool) : Rule ExprShape := do
  let as := fun (shape : ExprShape) (rule : Rule Unit) => do
    rule
    return shape
  if ← ahead isLiteral then as .other do
    let _ ← literal
  else if ← ahead fun trees =>
      isWord "async" trees &&
        (second (isGroup .brace) trees ||
          (second (isWord "move") trees && third (isGroup .brace) trees)) then as .other do
    word "async"
    let _ ← word? "move"
    block g
  else if ← ahead fun trees => isWord "try" trees && second (isGroup .brace) trees then as .block do
    word "try"
    block g
  else if ← ahead startsClosure then as .other (closure g allowStruct)
  else if ← ahead startsBuiltin then as .verbatim builtinForm
  else if ← ahead fun trees =>
      startsPath trees ||
        (isWord "try" trees && (second (isPunct "!") trees || second (isPunct "::") trees)) then
    pathOperand g allowStruct
  else if ← ahead (isGroup .paren) then as .other (within .paren (parenExpr g))
  else if ← ahead (isWord "break") then as .other (breakExpr g allowStruct)
  else if ← word? "continue" then as .other lifetime?
  else if ← word? "return" then as .other (optionalValue g)
  else if ← word? "become" then as .verbatim do
    let _ ← dropItems (g.expr true)
  else if ← ahead (isGroup .bracket) then as .other (within .bracket (arrayContent g))
  else if ← ahead (isWord "let") then as .other (letExpr g allowStruct)
  else if ← ahead (isWord "if") then as .block (conditional g)
  else if ← ahead (isWord "while") then as .block (whileLoop g)
  else if ← ahead (isWord "for") then as .block (forLoop g)
  else if ← ahead (isWord "loop") then as .block (endlessLoop g)
  else if ← ahead (isWord "match") then as .block (matchExpr g)
  else if ← word? "yield" then as .other (optionalValue g)
  else if ← word? "unsafe" then as .block do
    let _ ← attributedBlock g
  else if ← ahead (isWord "const") then as .block (constantBlock g)
  else if ← ahead (isGroup .brace) then as .block do
    let _ ← attributedBlock g
  else if ← ahead (isPunct "..") then as .range (rangeRest g allowStruct)
  else if ← word? "_" then return .other
  else if ← ahead isLifetime then as .block (labeled g)
  else fail

/-- An operand with the attributes before it; the rule of the operand is told whether there are any.
They are dropped before a form without a meaning of its own. -/
def attributedOperand (g : Grammar) (operand : (attributed : Bool) → Rule ExprShape) :
    Rule ExprShape := do
  let (attributes, inAttributes) ← capture (outerAttributes g)
  let (shape, inside) ← capture (operand !attributes.isEmpty)
  if shape ≠ .verbatim then collect inAttributes
  collect inside
  return shape

/-- An operand with the prefix operators before it and the calls, fields and indices after it. -/
def operandRule (g : Grammar) (allowStruct : Bool) : Rule ExprShape :=
  attributedOperand g fun attributed => do
    if ← punct? "&" then
      let raw ← ahead fun trees =>
        isWord "raw" trees && (second (isWord "mut") trees || second (isWord "const") trees)
      if raw then word "raw"
      let mutable ← word? "mut"
      if raw && !mutable then word "const"
      let _ ← g.operand allowStruct
      return .other
    else if ← ahead fun trees => isPunct "*" trees || isPunct "!" trees || isPunct "-" trees then
      if ← ahead (isPunct "*") then punct "*"
      else if ← ahead (isPunct "!") then punct "!"
      else punct "-"
      let _ ← g.operand allowStruct
      return .other
    else
      let shape ← trailers g (← atom g allowStruct)
      require !(attributed && shape = .range)
      return shape

/-- An expression. -/
def exprRule (g : Grammar) (allowStruct : Bool) : Rule ExprShape := do
  let first ← g.operand allowStruct
  g.operators first allowStruct .least

/-- Whether a form that ends early as a statement can start here. -/
def startsEarly (trees : List Tree) : Bool :=
  isWord "if" trees || isWord "while" trees ||
    (isWord "for" trees && !startsBinder trees) || isWord "loop" trees || isWord "match" trees ||
    (isWord "try" trees && second (isGroup .brace) trees) || isWord "unsafe" trees ||
    (isWord "const" trees && second (isGroup .brace) trees) || isGroup .brace trees ||
    isLifetime trees

/-- An expression that ends early when it can stand as a statement. -/
def statementExprRule (g : Grammar) : Rule ExprShape := do
  let shape ← attributedOperand g fun _ => do
    if ← ahead startsEarly then atom g true else g.operand true
  if shape ≠ .block then g.operators shape true .least
  else if ← ahead fun trees =>
      (isPunct "." trees && !isPunct ".." trees) || isPunct "?" trees then
    g.operators (← trailers g shape) true .least
  else return shape

end DocApi.Source.Grammar
