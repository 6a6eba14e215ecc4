import DocApi.Yaml.Plain

/-!
# Scalars

A text is written plainly when nothing in it could be taken for something else. Otherwise it is
written in single quotes, as a literal block when it has several lines, or in double quotes, in
which every character can be escaped.
-/

namespace DocApi.Yaml

/-- How a text is written. -/
inductive ScalarStyle where
  | plain | single | double | literal
deriving DecidableEq, Repr

/-- Whether a character ends a line. -/
def isBreak (c : Char) : Bool :=
  c == '\n' || c == '\r' || c == '\x85' || c == '\u2028' || c == '\u2029'

/-- Whether a character separates words. -/
def isGap (c : Char) : Bool := c == ' ' || c == '\t' || c == '\x00' || isBreak c

/-- Whether a text starts with a gap or ends. -/
def gapAhead : List Char → Bool
  | [] => true
  | c :: _ => isGap c

/-- Whether a character can be written as it is. -/
def isPrintable (c : Char) : Bool :=
  let code := c.toNat
  code == 0x0A || (0x20 ≤ code && code ≤ 0x7E) || (0xA0 ≤ code && code ≤ 0xD7FF) ||
    (0xE000 ≤ code && code ≤ 0xFFFD && code != 0xFEFF) || 0x10000 ≤ code

/-- The characters that cannot start a plain scalar. -/
def indicators : List Char :=
  ['#', ',', '[', ']', '{', '}', '&', '*', '!', '|', '>', '\'', '"', '%', '@', '`']

/-- Whether what follows the first character holds a colon before a gap or a number sign after
one. -/
def hasIndicator (afterGap : Bool) : List Char → Bool
  | [] => false
  | c :: text =>
      (c == ':' && gapAhead text) || (c == '#' && afterGap) || hasIndicator (isGap c) text

/-- Whether a text holds what has a meaning of its own in a plain scalar. -/
def hasMeaning (text : List Char) : Bool :=
  match text with
  | [] => false
  | c :: rest =>
      startsWith ['-', '-', '-'] text || startsWith ['.', '.', '.'] text ||
        indicators.contains c || ((c == '?' || c == ':' || c == '-') && gapAhead rest) ||
        hasIndicator (isGap c) rest

/-- Whether a character of the first kind stands directly before one of the second. -/
def hasPair (first second : Char → Bool) : List Char → Bool
  | c :: d :: text => (first c && second d) || hasPair first second (d :: text)
  | _ => false

/-- What a text admits. -/
structure ScalarTraits where
  plainAllowed : Bool
  singleAllowed : Bool
  literalAllowed : Bool

/-- Analyses a text. -/
def ScalarTraits.ofText (text : List Char) : ScalarTraits :=
  let isSpace := fun c => c == ' '
  let special := text.any (!isPrintable ·) || hasPair isSpace isBreak text
  let atEdge := text.head?.any isSpace || text.getLast?.any isSpace
  { plainAllowed := !special && !atEdge && !text.any isBreak && !hasMeaning text
    singleAllowed := !special && !hasPair isBreak isSpace text
    literalAllowed := !special && !text.getLast?.any isSpace }

/-- The style in which a text is written; `asKey` when it is a key on one line with its value. -/
def ScalarStyle.ofText (asKey : Bool) (text : String) : ScalarStyle :=
  let chars := text.toList
  let traits := ScalarTraits.ofText chars
  if chars.contains '\n' then
    if traits.literalAllowed && !asKey then .literal else .double
  else if traits.plainAllowed && !isAmbiguous text then .plain
  else if traits.singleAllowed then .single
  else .double

/-! ## Quoting -/

/-- A text in single quotes, with `indent` blanks after the breaks in it. -/
def singleBody (indent : Nat) (afterBreak : Bool) : List Char → List Char
  | [] => if afterBreak then List.replicate indent ' ' else []
  | c :: text =>
      if isBreak c then c :: singleBody indent true text
      else
        (if afterBreak then List.replicate indent ' ' else []) ++
          (if c == '\'' then ['\'', '\''] else [c]) ++ singleBody indent false text

/-- The letters that stand for a character after a backslash. -/
def shortEscapes : List (Nat × Char) :=
  [(0x00, '0'), (0x07, 'a'), (0x08, 'b'), (0x09, 't'), (0x0A, 'n'), (0x0B, 'v'), (0x0C, 'f'),
    (0x0D, 'r'), (0x1B, 'e'), (0x22, '"'), (0x5C, '\\'), (0x85, 'N'), (0xA0, '_'), (0x2028, 'L'),
    (0x2029, 'P')]

/-- The last `count` hexadecimal digits of a number, in capitals. -/
def hexDigits : (count : Nat) → Nat → List Char
  | 0, _ => []
  | count + 1, n => hexDigits count (n / 16) ++ [(Nat.digitChar (n % 16)).toUpper]

/-- A character after a backslash. -/
def escaped (c : Char) : List Char :=
  let code := c.toNat
  match shortEscapes.lookup code with
  | some letter => ['\\', letter]
  | none =>
      if code ≤ 0xFF then '\\' :: 'x' :: hexDigits 2 code
      else if code ≤ 0xFFFF then '\\' :: 'u' :: hexDigits 4 code
      else '\\' :: 'U' :: hexDigits 8 code

/-- A character in double quotes. -/
def doubleChar (c : Char) : List Char :=
  if !isPrintable c || isBreak c || c == '"' || c == '\\' then escaped c else [c]

/-- What follows the bar of a literal block: the indent when the text does not show it, and what
happens to the breaks at its end. -/
def literalHeader (text : List Char) : List Char :=
  let indentHint := if text.head?.any fun c => c == ' ' || isBreak c then ['2'] else []
  let chomp := match text.reverse with
    | [] => ['-']
    | [c] => if isBreak c then ['+'] else ['-']
    | c :: d :: _ => if !isBreak c then ['-'] else if isBreak d then ['+'] else []
  indentHint ++ chomp

/-- The lines of a literal block, each with `indent` blanks before it unless it is empty. -/
def literalBody (indent : Nat) (afterBreak : Bool) : List Char → List Char
  | [] => []
  | c :: text =>
      if isBreak c then c :: literalBody indent true text
      else
        (if afterBreak then List.replicate indent ' ' else []) ++
          c :: literalBody indent false text

/-- The end of the line after a scalar; a literal block may have ended it already. -/
def endLine (text : List Char) : List Char := if text.getLast?.any isBreak then [] else ['\n']

/-- A text in one of the styles that take no line of their own. -/
def inlineScalar (indent : Nat) (style : ScalarStyle) (text : List Char) : List Char :=
  match style with
  | .single => '\'' :: (singleBody indent false text ++ ['\''])
  | .double => '"' :: (text.flatMap doubleChar ++ ['"'])
  | .plain | .literal => text

/-- A text and the end of its line; the lines of the text stand at `indent`. -/
def scalarLine (indent : Nat) (text : String) : List Char :=
  let chars := text.toList
  match ScalarStyle.ofText false text with
  | .literal =>
      '|' :: (literalHeader chars ++ '\n' :: (literalBody indent true chars ++ endLine chars))
  | style => inlineScalar indent style chars ++ ['\n']

/-- Whether a key can stand on one line with its value. -/
def isSimpleKey (key : String) : Bool := !key.toList.any isBreak && key.utf8ByteSize ≤ 128

/-- A key that stands on one line with its value. -/
def simpleKey (key : String) : List Char :=
  inlineScalar 0 (ScalarStyle.ofText true key) key.toList

end DocApi.Yaml
