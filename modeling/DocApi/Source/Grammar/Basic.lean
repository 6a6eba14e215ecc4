import DocApi.Source.Rule

/-!
# The rules of the grammar

Types, expressions, patterns, statements and items contain each other. The rules of one kind refer
to those of the others through a `Grammar`, a table of rules, so that each kind can be written down
by itself; a later module ties the table to itself.

Of types, expressions and patterns the rules give only what the choice of a later rule or a
declaration depends on.
-/

namespace DocApi.Source

/-- The forms of types that later rules tell apart. -/
inductive TypeShape where
  /-- A path without a qualified self type. It is simple when it has one segment and no leading
  `::`. -/
  | path (simple : Bool)
  /-- A single trait bound that is no path. -/
  | bound
  | other
deriving DecidableEq, Repr

/-- A type and its form. -/
structure TypeForm where
  type : Ty
  shape : TypeShape

/-- The forms of expressions that later rules tell apart. -/
inductive ExprShape where
  /-- A loop, a conditional or a block, which can stand as a statement without a semicolon. -/
  | block
  | range
  /-- Two operands of a comparison. -/
  | comparison
  /-- A macro call; `braced` when its arguments stand in braces. -/
  | call (braced : Bool)
  /-- A form without a meaning of its own. -/
  | verbatim
  | other
deriving DecidableEq, Repr

/-- The binding strength of operators, weakest first. -/
inductive Precedence where
  | least | assign | range | or | and | compare | bitOr | bitXor | bitAnd | shift | sum | product
  | cast
deriving DecidableEq, Repr

/-- The rank of a binding strength. -/
def Precedence.rank : Precedence → Nat
  | .least => 0
  | .assign => 1
  | .range => 2
  | .or => 3
  | .and => 4
  | .compare => 5
  | .bitOr => 6
  | .bitXor => 7
  | .bitAnd => 8
  | .shift => 9
  | .sum => 10
  | .product => 11
  | .cast => 12

/-- The rules that refer to each other. -/
structure Grammar where
  /-- A type; `allowPlus` tells whether it may be a sum of bounds. -/
  type : (allowPlus : Bool) → Rule TypeForm
  /-- A bound of a type parameter. -/
  bound : (allowCapture allowConst : Bool) → Rule Bool
  /-- An expression; `allowStruct` tells whether it may be a struct literal. -/
  expr : (allowStruct : Bool) → Rule ExprShape
  /-- An operand of a binary operator. -/
  operand : (allowStruct : Bool) → Rule ExprShape
  /-- The operators after a first operand that bind at least as strongly as the given strength. -/
  operators : (left : ExprShape) → (allowStruct : Bool) → (base : Precedence) → Rule ExprShape
  /-- An expression that ends early when it can stand as a statement. -/
  statementExpr : Rule ExprShape
  /-- A pattern without alternatives; tells whether it is a range with an open end. -/
  pattern : Rule Bool
  /-- The statements of a block. -/
  statements : Rule Unit
  /-- The named fields of a record. -/
  fields : Rule (List Field)
  /-- An item. -/
  item : Rule Item
  /-- The tree of an import; tells whether it is well formed. -/
  importTree : (allowRoot : Bool) → Rule Bool

/-- A table whose rules all fail. -/
def Grammar.empty : Grammar where
  type _ := Rule.fail
  bound _ _ := Rule.fail
  expr _ := Rule.fail
  operand _ := Rule.fail
  operators _ _ _ := Rule.fail
  statementExpr := Rule.fail
  pattern := Rule.fail
  statements := Rule.fail
  fields := Rule.fail
  item := Rule.fail
  importTree _ := Rule.fail

end DocApi.Source
