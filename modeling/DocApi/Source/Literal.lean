import DocApi.Json.Reader
import DocApi.Source.Tree
import DocApi.Text.Letter

/-!
# Literals of source text

Every reader takes the text from the first character of a literal and gives the literal and the
text after it, suffix included. Strings are unescaped while they are read: an escaped line end
swallows the blanks that follow it, and a carriage return must stand before a newline.
-/

namespace DocApi.Source

open Json (hexDigit?)

/-- The name at the start of a text, and the rest. -/
def readName : List Char → Option (List Char × List Char)
  | [] => none
  | c :: text =>
      if startsIdentifier c then
        some (c :: text.takeWhile continuesIdentifier, text.dropWhile continuesIdentifier)
      else none

/-- Drops the suffix of a literal, when it has one. -/
def dropSuffix (text : List Char) : List Char :=
  match readName text with
  | some (_, rest) => rest
  | none => text

/-- The kinds of strings. -/
inductive StringKind where
  /-- Unicode text. -/
  | text
  /-- Bytes: ASCII characters and escapes. -/
  | bytes
  /-- Text without the character zero. -/
  | terminated
deriving DecidableEq, Repr

namespace StringKind

/-- Whether a string of this kind may hold the character as it is. -/
def allows (kind : StringKind) (c : Char) : Bool :=
  match kind with
  | .text => true
  | .bytes => c.toNat < 0x80
  | .terminated => c != '\x00'

/-- Whether a string of this kind may hold the escape `\xhl`. -/
def allowsByte (kind : StringKind) (high low : Nat) : Bool :=
  match kind with
  | .text => high < 8
  | .bytes => true
  | .terminated => !(high == 0 && low == 0)

end StringKind

/-- The character named between braces after `\u`: one to six hexadecimal digits, with underscores
between them. -/
def readCodePoint (value count : Nat) : List Char → Option (Char × List Char)
  | [] => none
  | c :: text =>
      match hexDigit? c with
      | some digit =>
          if count = 6 then none else readCodePoint (value * 16 + digit) (count + 1) text
      | none =>
          if count = 0 then none
          else if c == '_' then readCodePoint value count text
          else if c == '}' then
            if value < 0xD800 || (0xE000 ≤ value && value < 0x110000) then
              some (Char.ofNat value, text)
            else none
          else none

/-- The character of a simple escape. -/
def simpleEscape? : Char → Option Char
  | 'n' => some '\n'
  | 'r' => some '\r'
  | 't' => some '\t'
  | '\\' => some '\\'
  | '\'' => some '\''
  | '"' => some '"'
  | _ => none

/-- The character after a backslash, in a string of the given kind. -/
def readEscaped (kind : StringKind) : List Char → Option (Char × List Char)
  | 'x' :: high :: low :: text => do
      let h ← hexDigit? high
      let l ← hexDigit? low
      if kind.allowsByte h l then some (Char.ofNat (h * 16 + l), text) else none
  | 'u' :: '{' :: text => do
      if kind = .bytes then none
      else
        let (c, text) ← readCodePoint 0 0 text
        if kind.allows c then some (c, text) else none
  | '0' :: text => if kind = .terminated then none else some ('\x00', text)
  | c :: text => (simpleEscape? c).map fun c => (c, text)
  | [] => none

/-- What follows the blanks after an escaped line end; a carriage return must stand before a
newline. -/
def skipContinuation : List Char → Option (List Char)
  | ' ' :: text | '\t' :: text | '\n' :: text | '\r' :: '\n' :: text => skipContinuation text
  | '\r' :: _ => none
  | [] => none
  | text => some text

/-- The content of a string up to its closing quote; `done` holds it in reverse. -/
def readContent (kind : StringKind) : (fuel : Nat) → (done text : List Char) →
    Option (List Char × List Char)
  | 0, _, _ => none
  | fuel + 1, done, text =>
      match text with
      | [] => none
      | '"' :: rest => some (done.reverse, rest)
      | '\r' :: '\n' :: rest => readContent kind fuel ('\n' :: done) rest
      | '\r' :: _ => none
      | '\\' :: '\n' :: rest | '\\' :: '\r' :: '\n' :: rest =>
          match skipContinuation rest with
          | some rest => readContent kind fuel done rest
          | none => none
      | '\\' :: rest =>
          match readEscaped kind rest with
          | some (c, rest) => readContent kind fuel (c :: done) rest
          | none => none
      | c :: rest => if kind.allows c then readContent kind fuel (c :: done) rest else none

/-- The content of a raw string up to the quote and hashes that close it. -/
def readRawContent (kind : StringKind) (closing : List Char) (done : List Char) :
    List Char → Option (List Char × List Char)
  | [] => none
  | '\r' :: '\n' :: text => readRawContent kind closing ('\n' :: '\r' :: done) text
  | c :: text =>
      match (if c == '"' then afterStart? closing text else none) with
      | some rest => some (done.reverse, rest)
      | none =>
          if c == '\r' then none
          else if kind.allows c then readRawContent kind closing (c :: done) text
          else none

/-- A raw string after its `r`: hashes, a quote, and the content up to a quote and as many
hashes. -/
def readRawString (kind : StringKind) (text : List Char) : Option (List Char × List Char) :=
  let hashes := text.takeWhile (· == '#')
  match text.dropWhile (· == '#') with
  | '"' :: rest => if 255 < hashes.length then none else readRawContent kind hashes [] rest
  | _ => none

/-- A string literal of any kind. -/
def readStringLiteral (text : List Char) : Option (Literal × List Char) :=
  let cooked := fun kind (rest : List Char) => readContent kind (rest.length + 1) [] rest
  let asText := fun (result : Option (List Char × List Char)) =>
    result.map fun (value, rest) => (Literal.text (String.ofList value), dropSuffix rest)
  let asOther := fun (result : Option (List Char × List Char)) =>
    result.map fun (_, rest) => (Literal.other, dropSuffix rest)
  match text with
  | '"' :: rest => asText (cooked .text rest)
  | 'r' :: rest => asText (readRawString .text rest)
  | 'b' :: '"' :: rest => asOther (cooked .bytes rest)
  | 'b' :: 'r' :: rest => asOther (readRawString .bytes rest)
  | 'c' :: '"' :: rest => asOther (cooked .terminated rest)
  | 'c' :: 'r' :: rest => asOther (readRawString .terminated rest)
  | _ => none

/-- The rest after a quoted character whose opening quote is already read. -/
def readQuotedChar (kind : StringKind) (text : List Char) : Option (Literal × List Char) := do
  let rest ← match text with
    | '\\' :: text => (readEscaped kind text).map Prod.snd
    | c :: text => if kind.allows c then some text else none
    | [] => none
  match rest with
  | '\'' :: rest => some (.other, dropSuffix rest)
  | _ => none

/-- A character or byte literal. -/
def readCharLiteral : List Char → Option (Literal × List Char)
  | '\'' :: text => readQuotedChar .text text
  | 'b' :: '\'' :: text => readQuotedChar .bytes text
  | _ => none

/-- Whether a digit or underscore. -/
def isDigitMark (c : Char) : Bool := c.isDigit || c == '_'

/-- The exponent of a number after its mark: digits and underscores, with one sign before the
first digit, and at least one digit. -/
def readExponentPart (signed valued : Bool) : List Char → Option (List Char)
  | [] => if valued then some [] else none
  | c :: text =>
      if c == '+' || c == '-' then
        if valued then some (c :: text)
        else if signed then none
        else readExponentPart true valued text
      else if c.isDigit then readExponentPart signed true text
      else if c == '_' then readExponentPart signed valued text
      else if valued then some (c :: text)
      else none

/-- The rest after the digits, point and exponent of a number that has a point or an exponent. -/
def readFloatDigits (text : List Char) : Option (List Char) :=
  match text with
  | [] => none
  | first :: _ =>
      if !first.isDigit then none
      else
        match text.dropWhile isDigitMark with
        | '.' :: rest =>
            match rest with
            | c :: _ =>
                if c == '.' || startsIdentifier c then none
                else
                  let beforeExponent := rest.dropWhile isDigitMark
                  match beforeExponent with
                  | mark :: exponent =>
                      if mark == 'e' || mark == 'E' then
                        some ((readExponentPart false false exponent).getD beforeExponent)
                      else some beforeExponent
                  | [] => some []
            | [] => some []
        | mark :: exponent =>
            if mark == 'e' || mark == 'E' then readExponentPart false false exponent else none
        | [] => none

/-- The digits of an integer in a base, as their value and the rest. Digits that are too large end
the number when they are letters and make it unreadable otherwise. -/
def readBaseDigits (base : Nat) (value : Nat) (empty : Bool) : List Char → Option (Nat × List Char)
  | [] => if empty then none else some (value, [])
  | c :: text =>
      if c.isDigit then
        let digit := c.toNat - '0'.toNat
        if base ≤ digit then none else readBaseDigits base (value * base + digit) false text
      else if c == '_' then
        if empty && base == 10 then none else readBaseDigits base value empty text
      else
        match hexDigit? c with
        | some digit =>
            if base ≤ digit then if empty then none else some (value, c :: text)
            else readBaseDigits base (value * base + digit) false text
        | none => if empty then none else some (value, c :: text)

/-- The value of the digits of an integer, and the rest. -/
def readIntegerDigits : List Char → Option (Nat × List Char)
  | '0' :: 'x' :: text => readBaseDigits 16 0 true text
  | '0' :: 'o' :: text => readBaseDigits 8 0 true text
  | '0' :: 'b' :: text => readBaseDigits 2 0 true text
  | text => readBaseDigits 10 0 true text

/-- The suffix of a number and what follows it; a number must end where a name could not go on. -/
def readNumberSuffix (text : List Char) : Option (List Char × List Char) :=
  match readName text with
  | some found => some found
  | none =>
      match text with
      | c :: _ => if continuesIdentifier c then none else some ([], text)
      | [] => some ([], [])

/-- A number. -/
def readNumberLiteral (text : List Char) : Option (Literal × List Char) :=
  match (readFloatDigits text).bind readNumberSuffix with
  | some (_, rest) =>
      some (.float (String.ofList (text.take (text.length - rest.length))), rest)
  | none => do
      let (value, rest) ← readIntegerDigits text
      let (suffix, rest) ← readNumberSuffix rest
      some (.integer value (String.ofList suffix), rest)

/-- A literal of any kind. -/
def readLiteral (text : List Char) : Option (Literal × List Char) :=
  match readStringLiteral text with
  | some found => some found
  | none =>
      match readCharLiteral text with
      | some found => some found
      | none => readNumberLiteral text

end DocApi.Source
