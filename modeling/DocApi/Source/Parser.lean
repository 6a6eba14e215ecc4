import DocApi.Source.Grammar.Item
import DocApi.Source.Lexer

/-!
# Reading source text

The rules of the grammar are tied together by unfolding the table of rules as deep as a text can
need: a rule that refers to another one without reading a token does so only a bounded number of
times in a row.
-/

namespace DocApi.Source

/-- The rules of the grammar, unfolded `depth` times. -/
def Grammar.ofDepth : (depth : Nat) → Grammar
  | 0 => .empty
  | depth + 1 => {
      type := fun allowPlus cursor => typeRule (ofDepth depth) allowPlus cursor
      bound := fun allowCapture allowConst cursor =>
        boundRule (ofDepth depth) allowCapture allowConst cursor
      expr := fun allowStruct cursor => exprRule (ofDepth depth) allowStruct cursor
      operand := fun allowStruct cursor => operandRule (ofDepth depth) allowStruct cursor
      operators := fun left allowStruct base cursor =>
        operatorsRule (ofDepth depth) left allowStruct base cursor
      statementExpr := fun cursor => statementExprRule (ofDepth depth) cursor
      pattern := fun cursor => patternRule (ofDepth depth) cursor
      statements := fun cursor => statementsRule (ofDepth depth) cursor
      fields := fun cursor => fieldsRule (ofDepth depth) cursor
      item := fun cursor => itemRule (ofDepth depth) cursor
      importTree := fun allowRoot cursor => importTreeRule (ofDepth depth) allowRoot cursor }

/-- The rules of the grammar, unfolded deep enough for the given trees. -/
def Grammar.forTrees (trees : List Tree) : Grammar := .ofDepth (16 * (treesSize trees + 4))

/-- Reads a type; nothing may follow it. -/
def Ty.parse? (text : List Char) : Option Ty := do
  let trees ← trees? text
  let form ← Rule.parseAll ((Grammar.forTrees trees).type true) trees
  return form.type

/-- The rule of a source file. -/
def Grammar.file (g : Grammar) : Rule File := do
  let (attributes, inside) ← Rule.capture (innerAttributes g)
  return ⟨attributes, inside, ← Rule.untilEnd g.item⟩

/-- Reads a source file. -/
def File.parse? (text : String) : Option File := do
  let trees ← fileTrees? text.toList
  Rule.parseAll (Grammar.forTrees trees).file trees

end DocApi.Source
