import DocApi.Source.Literal
import DocApi.Text.Blank

/-!
# From text to token trees

Blanks and ordinary comments separate tokens. A doc comment stands for an attribute `doc` whose
value is its text. Every closing delimiter must match the one that is open.
-/

namespace DocApi.Source

/-- The blanks of source text: those of Unicode and the two marks of writing direction. -/
def isSourceBlank (c : Char) : Bool := isBlank c || c == '\u200E' || c == '\u200F'

/-- The punctuation characters. -/
def punctuation : List Char := "~!@#$%^&*-=+|;:,<.>/?'".toList

/-- A line up to its end, and the text from the newline on. -/
def spanLine (done : List Char) : List Char → List Char × List Char
  | [] => (done.reverse, [])
  | '\n' :: text => (done.reverse, '\n' :: text)
  | '\r' :: '\n' :: text => (done.reverse, '\n' :: text)
  | c :: text => spanLine (c :: done) text

/-- A block comment without its last two characters, and what follows it. Comments nest. -/
def spanBlock (depth : Nat) (done : List Char) : List Char → Option (List Char × List Char)
  | [] => none
  | '/' :: '*' :: text => spanBlock (depth + 1) ('*' :: '/' :: done) text
  | '*' :: '/' :: text =>
      if depth ≤ 1 then some (done.reverse, text)
      else spanBlock (depth - 1) ('/' :: '*' :: done) text
  | c :: text => spanBlock depth (c :: done) text

/-- Whether every carriage return stands before a newline. -/
def returnsPaired : List Char → Bool
  | [] => true
  | '\r' :: '\n' :: text => returnsPaired text
  | '\r' :: _ => false
  | _ :: text => returnsPaired text

/-- The text of the doc comment at the start of a text, whether it belongs to what encloses it, and
what follows it. -/
def readDocComment (text : List Char) : Option (List Char × Bool × List Char) :=
  match text with
  | '/' :: '/' :: '!' :: rest =>
      let (comment, rest) := spanLine [] rest
      some (comment, true, rest)
  | '/' :: '*' :: '!' :: _ => do
      let (comment, rest) ← spanBlock 0 [] text
      some (comment.drop 3, true, rest)
  | '/' :: '/' :: '/' :: rest =>
      if rest.head? == some '/' then none
      else
        let (comment, rest) := spanLine [] rest
        some (comment, false, rest)
  | '/' :: '*' :: '*' :: rest =>
      if rest.head? == some '*' then none
      else do
        let (comment, rest) ← spanBlock 0 [] text
        some (comment.drop 3, false, rest)
  | _ => none

/-- What follows the ordinary comment at the start of a text. -/
def skipComment (text : List Char) : Option (List Char) :=
  match text with
  | '/' :: '*' :: '*' :: '/' :: rest => some rest
  | '/' :: '/' :: _ => if (readDocComment text).isSome then none else some (spanLine [] text).2
  | '/' :: '*' :: '*' :: rest =>
      if rest.head? == some '*' then (spanBlock 0 [] text).map Prod.snd else none
  | '/' :: '*' :: '!' :: _ => none
  | '/' :: '*' :: _ => (spanBlock 0 [] text).map Prod.snd
  | _ => none

/-- The trees that a doc comment stands for. -/
def docTrees (comment : List Char) (inner : Bool) : List Tree :=
  let bang := if inner then [Tree.punct '!' false] else []
  .punct '#' false :: bang ++
    [.group .bracket
      [.ident ⟨"doc", false, by decide⟩, .punct '=' false,
        .literal (.text (String.ofList comment))]]

/-- The punctuation character at the start of a text. A slash that starts a comment is none. -/
def readMark : List Char → Option (Char × List Char)
  | '/' :: '/' :: _ | '/' :: '*' :: _ => none
  | c :: text => if punctuation.contains c then some (c, text) else none
  | [] => none

/-- The words that `r#` does not turn into identifiers. -/
def neverRaw : List String := ["_", "super", "self", "Self", "crate"]

/-- The identifier with the given name, when there is one. -/
def Ident.ofName? (name : List Char) (raw : Bool) : Option Ident :=
  if nonempty : String.ofList name ≠ "" then some ⟨String.ofList name, raw, nonempty⟩ else none

/-- An identifier, raw or not. -/
def readIdent (text : List Char) : Option (Ident × List Char) :=
  match text with
  | 'r' :: '#' :: rest => do
      let (name, rest) ← readName rest
      let ident ← Ident.ofName? name true
      if neverRaw.contains ident.name then none else some (ident, rest)
  | text => do
      let (name, rest) ← readName text
      return (← Ident.ofName? name false, rest)

/-- The beginnings of strings and bytes, which are no identifiers. -/
def stringStarts : List (List Char) :=
  [['r', '"'], ['r', '#', '"'], ['r', '#', '#'], ['b', '"'], ['b', '\''], ['b', 'r', '"'],
    ['b', 'r', '#'], ['c', '"'], ['c', 'r', '"'], ['c', 'r', '#']]

/-- A punctuation character with its spacing. A quotation mark starts a lifetime: a name must
follow it, and no second mark may close it. -/
def readPunct (text : List Char) : Option (Tree × List Char) :=
  match readMark text with
  | none => none
  | some ('\'', rest) =>
      match readIdent rest with
      | none => none
      | some (_, after) =>
          if after.head? == some '\'' ||
              (after.head? == some '#' && !startsWith ['r', '#'] rest) then none
          else some (.punct '\'' true, rest)
  | some (mark, rest) => some (.punct mark (readMark rest).isSome, rest)

/-- A token that is no group. -/
def readLeaf (text : List Char) : Option (Tree × List Char) :=
  match readLiteral text with
  | some (literal, rest) => some (.literal literal, rest)
  | none =>
      match readPunct text with
      | some found => some found
      | none =>
          if stringStarts.any fun start => startsWith start text then none
          else (readIdent text).map fun (ident, rest) => (.ident ident, rest)

/-- The delimiter that a character opens. -/
def opening? : Char → Option Delimiter
  | '(' => some .paren
  | '[' => some .bracket
  | '{' => some .brace
  | _ => none

/-- The delimiter that a character closes. -/
def closing? : Char → Option Delimiter
  | ')' => some .paren
  | ']' => some .bracket
  | '}' => some .brace
  | _ => none

/-- The text that stands for a token that could not be read. It is a literal of no kind, although
it starts with a parenthesis and looks like one around a comment. -/
def faultMark : List Char := "(/*ERROR*/)".toList

/-- Reads trees until the text ends. `opened` holds the open delimiters, innermost first, each with
the trees before it; lists of trees are in reverse. -/
def readTrees : (fuel : Nat) → (opened : List (Delimiter × List Tree)) → (done : List Tree) →
    List Char → Option (List Tree)
  | 0, _, _, _ => none
  | _ + 1, opened, done, [] => if opened.isEmpty then some done.reverse else none
  | fuel + 1, opened, done, c :: text =>
      if isSourceBlank c then readTrees fuel opened done text
      else
        match skipComment (c :: text) with
        | some rest => readTrees fuel opened done rest
        | none =>
            match readDocComment (c :: text) with
            | some (comment, inner, rest) =>
                if returnsPaired comment then
                  readTrees fuel opened ((docTrees comment inner).reverse ++ done) rest
                else none
            | none =>
                if startsWith faultMark (c :: text) then
                  readTrees fuel opened (.literal .other :: done)
                    ((c :: text).drop faultMark.length)
                else
                  match opening? c, closing? c, opened with
                  | some delimiter, _, _ => readTrees fuel ((delimiter, done) :: opened) [] text
                  | none, some delimiter, (expected, before) :: outer =>
                      if delimiter = expected then
                        readTrees fuel outer (.group delimiter done.reverse :: before) text
                      else none
                  | none, some _, [] => none
                  | none, none, _ =>
                      match readLeaf (c :: text) with
                      | some (tree, rest) => readTrees fuel opened (tree :: done) rest
                      | none => none

/-- Drops a byte order mark. -/
def dropByteOrderMark : List Char → List Char
  | '\uFEFF' :: text => text
  | text => text

/-- The token trees of a text, a byte order mark apart. -/
def trees? (text : List Char) : Option (List Tree) :=
  let text := dropByteOrderMark text
  readTrees (text.length + 1) [] [] text

/-- Drops blanks and ordinary comments. -/
def skipBlanks : (fuel : Nat) → List Char → List Char
  | 0, text => text
  | _ + 1, [] => []
  | fuel + 1, c :: text =>
      if isSourceBlank c then skipBlanks fuel text
      else
        match skipComment (c :: text) with
        | some rest => skipBlanks fuel rest
        | none => c :: text

/-- Drops a first line that names an interpreter. A line that starts an attribute is none. -/
def dropInterpreter (text : List Char) : List Char :=
  match text with
  | '#' :: '!' :: rest =>
      if (skipBlanks (rest.length + 1) rest).head? == some '[' then text
      else text.dropWhile (· != '\n')
  | text => text

/-- The token trees of a source file. -/
def fileTrees? (text : List Char) : Option (List Tree) :=
  trees? (dropInterpreter (dropByteOrderMark text))

end DocApi.Source
