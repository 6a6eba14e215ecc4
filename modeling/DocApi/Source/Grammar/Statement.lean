import DocApi.Source.Grammar.Expression

/-!
# Statements

The grammar of the statements of a block. The items among them are collected.
-/

namespace DocApi.Source.Grammar

open Rule

/-- Whether a statement after its attributes is an item, unless it is a macro call. -/
def startsItem (trees : List Tree) : Bool :=
  isWord "pub" trees || (isWord "crate" trees && !second (isPunct "::") trees) ||
    isWord "extern" trees || isWord "use" trees ||
    (isWord "static" trees &&
      (second (isWord "mut") trees ||
        (second isIdent trees &&
          !(second (isWord "async") trees &&
            (third (isWord "move") trees || third (isPunct "|") trees))))) ||
    (isWord "const" trees &&
      !(second (isGroup .brace) trees || second (isWord "static") trees ||
        (second (isWord "async") trees &&
          !(third (isWord "unsafe") trees || third (isWord "extern") trees ||
            third (isWord "fn") trees)) ||
        second (isWord "move") trees || second (isPunct "|") trees)) ||
    (isWord "unsafe" trees && !second (isGroup .brace) trees) ||
    (isWord "async" trees &&
      (second (isWord "unsafe") trees || second (isWord "extern") trees ||
        second (isWord "fn") trees)) ||
    isWord "fn" trees || isWord "mod" trees || isWord "type" trees || isWord "struct" trees ||
    isWord "enum" trees || (isWord "union" trees && second isIdent trees) ||
    (isWord "auto" trees && second (isWord "trait") trees) || isWord "trait" trees ||
    (isWord "default" trees && (second (isWord "unsafe") trees || second (isWord "impl") trees)) ||
    isWord "impl" trees || isWord "macro" trees

/-- What a statement is, as far as its first trees tell. -/
inductive StatementStart where
  /-- A macro call with braces, after which nothing more belongs to it. -/
  | bracedCall
  /-- A variable. -/
  | binding
  | item
  | expression
deriving DecidableEq, Repr

/-- What follows the path of a macro call that is a statement or an item. -/
def callStart (trees : List Tree) : Option StatementStart :=
  if !isPunct "!" trees then none
  else if second isIdent trees || second (isWord "try") trees then some .item
  else if second (isGroup .brace) trees &&
      !((third (isPunct ".") trees && !third (isPunct "..") trees) ||
        third (isPunct "?") trees) then
    some .bracedCall
  else none

/-- The kind of the statement ahead. -/
def statementStart (g : Grammar) : Rule StatementStart := do
  let _ ← outerAttributes g
  let call ← lookahead do
    let _ ← wordPath
    return callStart (← rest)
  match call with
  | some (some .bracedCall) => return .bracedCall
  | some (some _) => return if ← ahead (isWord "let") then .binding else .item
  | _ =>
      if ← ahead (isWord "let") then return .binding
      else if ← ahead startsItem then return .item
      else return .expression

/-- The last tree of those that stand before `rest` in `trees`. -/
def lastBefore (rest trees : List Tree) : Option Tree :=
  trees[trees.length - rest.length - 1]?

/-- A variable with its type and value. A value that ends with a brace cannot be followed by
`else`. -/
def binding (g : Grammar) : Rule Unit := do
  let _ ← outerAttributes g
  word "let"
  let _ ← g.pattern
  if ← punct? ":" then
    let _ ← g.type true
  if ← punct? "=" then
    let trees ← rest
    let _ ← g.expr true
    let braced := match lastBefore (← rest) trees with
      | some (.group .brace _) => true
      | _ => false
    if !braced && (← word? "else") then block g
  punct ";"

/-- A statement; tells whether something may follow it. -/
def statement (g : Grammar) : Rule Bool := do
  match ← lookahead (statementStart g) with
  | some .bracedCall =>
      let _ ← outerAttributes g
      let _ ← wordPath
      punct "!"
      let _ ← macroArguments
      let _ ← punct? ";"
      return true
  | some .binding =>
      binding g
      return true
  | some .item =>
      let item ← g.item
      collect [item]
      return true
  | some .expression =>
      let shape ← g.statementExpr
      let ended ← punct? ";"
      return ended || shape = .block || shape = .call true
  | none => fail

/-- The statements of a block. -/
def statementsRule (g : Grammar) : Rule Unit :=
  loop (fun _ => do
    if ← punct? ";" then return .again ()
    else if ← atEnd then return .done ()
    else
      let complete ← statement g
      if ← atEnd then return .done ()
      require complete
      return .again ()) ()

end DocApi.Source.Grammar
