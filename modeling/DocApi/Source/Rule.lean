import DocApi.Source.Item

/-!
# Grammar rules

A rule reads trees from the front of a list and may fail. While it reads, it collects the items
that are declared inside of what it reads, and notes whether a group was left with trees that no
rule has read.
-/

namespace DocApi.Source

/-- Where a rule stands. -/
structure Cursor where
  /-- The trees that are still to be read. -/
  rest : List Tree
  /-- Whether some group was left before its end. -/
  stray : Bool
  /-- The items declared in what was read, in order. -/
  found : List Item

/-- A grammar rule: what it reads, and where it stands afterwards. -/
def Rule (α : Type) : Type := Cursor → Option (α × Cursor)

namespace Rule

variable {α β σ : Type}

/-- Reads nothing. -/
protected def pure (value : α) : Rule α := fun cursor => some (value, cursor)

/-- Reads with one rule and then with a rule that may depend on the result. -/
protected def bind (rule : Rule α) (next : α → Rule β) : Rule β := fun cursor =>
  match rule cursor with
  | some (value, cursor) => next value cursor
  | none => none

instance : Monad Rule where
  pure := Rule.pure
  bind := Rule.bind

/-- Fails. -/
def fail : Rule α := fun _ => none

/-- The trees that are still to be read. -/
def rest : Rule (List Tree) := fun cursor => some (cursor.rest, cursor)

/-- Fails unless the condition holds. -/
def require (condition : Bool) : Rule Unit := if condition then pure () else fail

/-- Whether a condition on the trees ahead holds. -/
def ahead (condition : List Tree → Bool) : Rule Bool := fun cursor =>
  some (condition cursor.rest, cursor)

/-- Whether all trees are read. -/
def atEnd : Rule Bool := ahead List.isEmpty

/-- The result of a rule, or nothing; a rule that fails reads nothing. -/
def attempt (rule : Rule α) : Rule (Option α) := fun cursor =>
  match rule cursor with
  | some (value, cursor) => some (some value, cursor)
  | none => some (none, cursor)

/-- The result that a rule would have here. -/
def lookahead (rule : Rule α) : Rule (Option α) := fun cursor =>
  some ((rule cursor).map Prod.fst, cursor)

/-- A rule together with the items declared in what it reads; they are not collected further. -/
def capture (rule : Rule α) : Rule (α × List Item) := fun cursor =>
  match rule { cursor with found := [] } with
  | some (value, after) => some ((value, after.found), { after with found := cursor.found })
  | none => none

/-- A rule whose inner items are dropped. -/
def dropItems (rule : Rule α) : Rule α := do return (← capture rule).1

/-- Collects items. -/
def collect (items : List Item) : Rule Unit := fun cursor =>
  some ((), { cursor with found := cursor.found ++ items })

/-- What a step of a loop decides. -/
inductive Step (σ β : Type) where
  | again (state : σ)
  | done (result : β)

/-- Repeats a step at most `count` times. -/
def repeatStep (step : σ → Rule (Step σ β)) : (count : Nat) → σ → Rule β
  | 0, _ => fail
  | count + 1, state => fun cursor =>
      match step state cursor with
      | none => none
      | some (.again state, cursor) => repeatStep step count state cursor
      | some (.done result, cursor) => some (result, cursor)

/-- Repeats a step until it is done. Every step but the last must read something, so that there
are at most as many as there are trees. -/
def loop (step : σ → Rule (Step σ β)) (state : σ) : Rule β := fun cursor =>
  repeatStep step (cursor.rest.length + 2) state cursor

/-- Reads with a rule as long as the condition holds. -/
def whileAhead (condition : List Tree → Bool) (rule : Rule α) : Rule (List α) :=
  loop (fun found => do
    if ← ahead condition then return .again ((← rule) :: found)
    else return .done found.reverse) []

/-- Reads with a rule until all trees are read. -/
def untilEnd (rule : Rule α) : Rule (List α) := whileAhead (fun trees => !trees.isEmpty) rule

end Rule

/-! ## Looking ahead -/

/-- Whether trees start with the punctuation `marks`, written without blanks in between. -/
def startsPunct : (marks : List Char) → List Tree → Bool
  | [], _ => true
  | [mark], .punct c _ :: _ => mark == c
  | mark :: marks, .punct c joint :: trees => mark == c && joint && startsPunct marks trees
  | _ :: _, _ => false

/-- Whether trees start with the punctuation `marks`. -/
def isPunct (marks : String) (trees : List Tree) : Bool := startsPunct marks.toList trees

/-- Whether trees start with the plain word `word`. -/
def isWord (word : String) : List Tree → Bool
  | .ident ident :: _ => ident.isWord word
  | _ => false

/-- The words that are no identifiers unless they are written raw. -/
def keywords : List String :=
  ["_", "abstract", "as", "async", "await", "become", "box", "break", "const", "continue", "crate",
    "do", "dyn", "else", "enum", "extern", "false", "final", "fn", "for", "if", "impl", "in", "let",
    "loop", "macro", "match", "mod", "move", "mut", "override", "priv", "pub", "ref", "return",
    "Self", "self", "static", "struct", "super", "trait", "true", "try", "type", "typeof", "unsafe",
    "unsized", "use", "virtual", "where", "while", "yield"]

/-- Whether an identifier can name something. -/
def Ident.isFree (ident : Ident) : Bool := ident.raw || !keywords.contains ident.name

/-- Whether trees start with an identifier that is no keyword. -/
def isIdent : List Tree → Bool
  | .ident ident :: _ => ident.isFree
  | _ => false

/-- Whether trees start with an identifier or keyword. -/
def isAnyIdent : List Tree → Bool
  | .ident _ :: _ => true
  | _ => false

/-- Whether trees start with a lifetime. -/
def isLifetime : List Tree → Bool
  | .punct '\'' true :: .ident _ :: _ => true
  | _ => false

/-- Whether trees start with a group. -/
def isGroup (delimiter : Delimiter) : List Tree → Bool
  | .group d _ :: _ => d = delimiter
  | _ => false

/-- Whether trees start with a literal, a truth value or a negative number. -/
def isLiteral : List Tree → Bool
  | .literal _ :: _ => true
  | .ident ident :: _ => ident.isWord "true" || ident.isWord "false"
  | .punct '-' _ :: .literal (.integer _ _) :: _ => true
  | .punct '-' _ :: .literal (.float _) :: _ => true
  | _ => false

/-- The trees after the first token; a lifetime counts as one token. -/
def afterOne : List Tree → List Tree
  | .punct '\'' true :: .ident _ :: trees => trees
  | _ :: trees => trees
  | [] => []

/-- Looks at the trees after the first token. -/
def second (condition : List Tree → Bool) (trees : List Tree) : Bool := condition (afterOne trees)

/-- Looks at the trees after the first two tokens. -/
def third (condition : List Tree → Bool) (trees : List Tree) : Bool :=
  condition (afterOne (afterOne trees))

/-! ## Reading tokens -/

namespace Rule

/-- Punctuation. -/
def punct (marks : String) : Rule Unit := fun cursor =>
  if isPunct marks cursor.rest then
    some ((), { cursor with rest := cursor.rest.drop marks.length })
  else none

/-- A plain word. -/
def word (text : String) : Rule Unit := fun cursor =>
  if isWord text cursor.rest then some ((), { cursor with rest := cursor.rest.drop 1 }) else none

/-- Punctuation that may be missing; tells whether it is there. -/
def punct? (marks : String) : Rule Bool := do
  if ← ahead (isPunct marks) then
    punct marks
    return true
  else return false

/-- A word that may be missing; tells whether it is there. -/
def word? (text : String) : Rule Bool := do
  if ← ahead (isWord text) then
    word text
    return true
  else return false

/-- An identifier or keyword. -/
def anyIdent : Rule Ident := fun cursor =>
  match cursor.rest with
  | .ident ident :: rest => some (ident, { cursor with rest })
  | _ => none

/-- An identifier that is no keyword. -/
def ident : Rule Ident := fun cursor =>
  match cursor.rest with
  | .ident ident :: rest => if ident.isFree then some (ident, { cursor with rest }) else none
  | _ => none

/-- A lifetime. -/
def lifetime : Rule Unit := fun cursor =>
  match cursor.rest with
  | .punct '\'' true :: .ident _ :: rest => some ((), { cursor with rest })
  | _ => none

/-- A lifetime that may be missing. -/
def lifetime? : Rule Unit := do
  if ← ahead isLifetime then lifetime

/-- A literal, a truth value or a negative number. -/
def literal : Rule Literal := fun cursor =>
  match cursor.rest with
  | .literal literal :: rest => some (literal, { cursor with rest })
  | .ident ident :: rest =>
      if ident.isWord "true" || ident.isWord "false" then some (.other, { cursor with rest })
      else none
  | .punct '-' _ :: .literal (.integer _ _) :: rest => some (.other, { cursor with rest })
  | .punct '-' _ :: .literal (.float _) :: rest => some (.other, { cursor with rest })
  | _ => none

/-- A string literal. -/
def text : Rule String := do
  match ← literal with
  | .text value => return value
  | _ => fail

/-- The trees of a group. -/
def groupTrees (delimiter : Delimiter) : Rule (List Tree) := fun cursor =>
  match cursor.rest with
  | .group d body :: rest => if d = delimiter then some (body, { cursor with rest }) else none
  | _ => none

/-- The trees of a group with any delimiters. -/
def anyGroup : Rule (Delimiter × List Tree) := fun cursor =>
  match cursor.rest with
  | .group delimiter body :: rest => some ((delimiter, body), { cursor with rest })
  | _ => none

/-- Reads what a group encloses. What the rule leaves of it is noted as stray. -/
def within {α : Type} (delimiter : Delimiter) (rule : Rule α) : Rule α := fun cursor =>
  match cursor.rest with
  | .group d body :: rest =>
      if d = delimiter then
        match rule { cursor with rest := body } with
        | some (value, inside) =>
            some (value, { inside with rest, stray := inside.stray || !inside.rest.isEmpty })
        | none => none
      else none
  | _ => none

/-- Values separated by commas up to the end; a comma may follow the last. -/
def commaList {α : Type} (rule : Rule α) : Rule (List α) :=
  loop (fun found => do
    if ← atEnd then return .done found.reverse
    let value ← rule
    if ← atEnd then return .done (value :: found).reverse
    punct ","
    return .again (value :: found)) []

/-- Runs a rule on trees; they must all be read, those of groups too. -/
def parseAll {α : Type} (rule : Rule α) (trees : List Tree) : Option α :=
  match rule ⟨trees, false, []⟩ with
  | some (value, cursor) => if cursor.rest.isEmpty && !cursor.stray then some value else none
  | none => none

end Rule

end DocApi.Source
