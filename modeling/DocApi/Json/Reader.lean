import DocApi.Json.Value
import DocApi.Text.Split

/-!
# Reading JSON

The reader accepts exactly one JSON value with blanks around it. Arrays and objects may be nested
127 deep. Integers that fit 64 bits stay integers; every other number becomes a floating point
number, and one that is too large makes the text unreadable. A key that is given twice keeps its
first place and its last value.
-/

namespace DocApi.Json

/-- The blanks of JSON text. -/
def isSpace (c : Char) : Bool := c == ' ' || c == '\n' || c == '\t' || c == '\r'

/-- Drops leading blanks. -/
def skipSpace (text : List Char) : List Char := text.dropWhile isSpace

/-- The greatest depth of nested arrays and objects. -/
def depthLimit : Nat := 127

/-- The value of a hexadecimal digit. -/
def hexDigit? (c : Char) : Option Nat :=
  if '0' ≤ c && c ≤ '9' then some (c.toNat - '0'.toNat)
  else if 'a' ≤ c && c ≤ 'f' then some (c.toNat - 'a'.toNat + 10)
  else if 'A' ≤ c && c ≤ 'F' then some (c.toNat - 'A'.toNat + 10)
  else none

/-- Four hexadecimal digits. -/
def readHex4 : List Char → Option (Nat × List Char)
  | a :: b :: c :: d :: text => do
      let value := (((← hexDigit? a) * 16 + (← hexDigit? b)) * 16 + (← hexDigit? c)) * 16 +
        (← hexDigit? d)
      some (value, text)
  | _ => none

/-- The character after a backslash and `u`; two escaped surrogates make one character. -/
def readUnicode (text : List Char) : Option (Char × List Char) := do
  let (high, text) ← readHex4 text
  if 0xDC00 ≤ high && high ≤ 0xDFFF then none
  else if 0xD800 ≤ high && high ≤ 0xDBFF then
    let text ← afterStart? ['\\', 'u'] text
    let (low, text) ← readHex4 text
    if 0xDC00 ≤ low && low ≤ 0xDFFF then
      some (Char.ofNat (0x10000 + (high - 0xD800) * 0x400 + (low - 0xDC00)), text)
    else none
  else some (Char.ofNat high, text)

/-- The character after a backslash. -/
def readEscape : List Char → Option (Char × List Char)
  | '"' :: text => some ('"', text)
  | '\\' :: text => some ('\\', text)
  | '/' :: text => some ('/', text)
  | 'b' :: text => some ('\x08', text)
  | 'f' :: text => some ('\x0c', text)
  | 'n' :: text => some ('\n', text)
  | 'r' :: text => some ('\r', text)
  | 't' :: text => some ('\t', text)
  | 'u' :: text => readUnicode text
  | _ => none

/-- The characters of a string up to its closing quote; `done` holds them in reverse. -/
def readString : (fuel : Nat) → (done text : List Char) → Option (String × List Char)
  | 0, _, _ => none
  | _ + 1, _, [] => none
  | fuel + 1, done, c :: text =>
      if c == '"' then some (String.ofList done.reverse, text)
      else if c == '\\' then
        match readEscape text with
        | some (escaped, rest) => readString fuel (escaped :: done) rest
        | none => none
      else if c.toNat < 0x20 then none
      else readString fuel (c :: done) text

/-- The greatest integer that is read digit by digit. -/
def integerLimit : Nat := Nat.pow 2 64 - 1

/-- Adds digits to `value` while the result stays in the limit; gives the number of digits added
and the rest. -/
def takeDigits (value count : Nat) : List Char → Nat × Nat × List Char
  | [] => (value, count, [])
  | c :: text =>
      if c.isDigit then
        let next := value * 10 + (c.toNat - '0'.toNat)
        if integerLimit < next then (value, count, c :: text)
        else takeDigits next (count + 1) text
      else (value, count, c :: text)

/-- The exponent after its mark: an optional sign and at least one digit. -/
def readExponent (text : List Char) : Option (Int × List Char) :=
  let (negative, text) := match text with
    | '+' :: text => (false, text)
    | '-' :: text => (true, text)
    | text => (false, text)
  let digits := text.takeWhile Char.isDigit
  if digits.isEmpty then none
  else
    let size := digits.foldl (fun value c => value * 10 + (c.toNat - '0'.toNat)) 0
    some (if negative then -(Int.ofNat size) else Int.ofNat size, text.dropWhile Char.isDigit)

/-- A floating point number from its digits, the exponent so far and what follows them. -/
def finishFloat (negative : Bool) (digits : Nat) (exponent : Int) (text : List Char) :
    Option (JsonNumber × List Char) := do
  let (exponent, text) ← match text with
    | c :: rest =>
        if c == 'e' || c == 'E' then (readExponent rest).map fun (e, rest) => (exponent + e, rest)
        else some (exponent, text)
    | [] => some (exponent, text)
  let value ← Binary64.ofDecimal? negative digits exponent
  some (.float value, text)

/-- The fraction after the point. Digits beyond the limit no longer count. -/
def readFraction (negative : Bool) (digits : Nat) (exponent : Int) (text : List Char) :
    Option (JsonNumber × List Char) :=
  let (value, count, rest) := takeDigits digits 0 text
  match text with
  | c :: _ =>
      if c.isDigit then
        finishFloat negative value (exponent - Int.ofNat count) (rest.dropWhile Char.isDigit)
      else none
  | [] => none

/-- A number, its sign apart. Zero is the only number that starts with a zero. -/
def readNumber (negative : Bool) (text : List Char) : Option (JsonNumber × List Char) :=
  match text with
  | '0' :: c :: rest => if c.isDigit then none else readTail 0 0 (c :: rest)
  | '0' :: [] => readTail 0 0 []
  | c :: _ =>
      if c.isDigit then
        let (value, _, rest) := takeDigits 0 0 text
        let beyond := rest.takeWhile Char.isDigit
        readTail value beyond.length (rest.dropWhile Char.isDigit)
      else none
  | [] => none
where
  /-- What may follow the integral digits, of which `beyond` did not fit the limit. -/
  readTail (digits beyond : Nat) (text : List Char) : Option (JsonNumber × List Char) :=
    match text with
    | '.' :: rest => readFraction negative digits beyond rest
    | c :: _ =>
        if c == 'e' || c == 'E' then finishFloat negative digits beyond text
        else whole digits beyond text
    | [] => whole digits beyond text
  /-- A number without point and exponent. -/
  whole (digits beyond : Nat) (text : List Char) : Option (JsonNumber × List Char) :=
    if beyond = 0 && !negative then some (.integer digits, text)
    else if beyond = 0 && digits ≠ 0 && digits ≤ Nat.pow 2 63 then
      some (.integer (-(Int.ofNat digits)), text)
    else (Binary64.ofDecimal? negative digits beyond).map fun value => (.float value, text)

mutual

/-- One value with the blanks before it. -/
def readValue : (fuel depth : Nat) → List Char → Option (Json × List Char)
  | 0, _, _ => none
  | fuel + 1, depth, text =>
      match skipSpace text with
      | '"' :: text =>
          (readString (text.length + 1) [] text).map fun (value, rest) => (.string value, rest)
      | '[' :: text =>
          if depth = 0 then none
          else
            match skipSpace text with
            | ']' :: rest => some (.array [], rest)
            | rest => readItems fuel (depth - 1) [] rest
      | '{' :: text =>
          if depth = 0 then none
          else
            match skipSpace text with
            | '}' :: rest => some (.object [], rest)
            | rest => readMembers fuel (depth - 1) [] rest
      | 't' :: text => (afterStart? ['r', 'u', 'e'] text).map fun rest => (.bool true, rest)
      | 'f' :: text => (afterStart? ['a', 'l', 's', 'e'] text).map fun rest => (.bool false, rest)
      | 'n' :: text => (afterStart? ['u', 'l', 'l'] text).map fun rest => (.null, rest)
      | '-' :: text => (readNumber true text).map fun (value, rest) => (.number value, rest)
      | text => (readNumber false text).map fun (value, rest) => (.number value, rest)

/-- The items of an array up to its end; `done` holds them in reverse. -/
def readItems : (fuel depth : Nat) → (done : List Json) → List Char → Option (Json × List Char)
  | 0, _, _, _ => none
  | fuel + 1, depth, done, text =>
      match readValue fuel depth text with
      | none => none
      | some (value, text) =>
          match skipSpace text with
          | ',' :: rest => readItems fuel depth (value :: done) rest
          | ']' :: rest => some (.array (value :: done).reverse, rest)
          | _ => none

/-- The members of an object up to its end. -/
def readMembers : (fuel depth : Nat) → (done : List (String × Json)) → List Char →
    Option (Json × List Char)
  | 0, _, _, _ => none
  | fuel + 1, depth, done, text =>
      match skipSpace text with
      | '"' :: text =>
          match readString (text.length + 1) [] text with
          | none => none
          | some (key, text) =>
              match skipSpace text with
              | ':' :: text =>
                  match readValue fuel depth text with
                  | none => none
                  | some (value, text) =>
                      let done := Keyed.put done key value
                      match skipSpace text with
                      | ',' :: rest => readMembers fuel depth done rest
                      | '}' :: rest => some (.object done, rest)
                      | _ => none
              | _ => none
      | _ => none

end

/-- Reads a text that holds one JSON value. -/
def parse? (text : String) : Option Json :=
  let chars := text.toList
  match readValue (2 * chars.length + 2) depthLimit chars with
  | some (value, rest) => if (skipSpace rest).isEmpty then some value else none
  | none => none

end DocApi.Json
