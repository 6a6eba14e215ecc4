import DocApi.Text.Split

/-!
# Texts that read as other values

A plain scalar is read as null, as a truth value or as a number when it looks like one. A text
that looks like that has to be quoted.
-/

namespace DocApi.Yaml

/-- The spellings of null and of the truth values. -/
def reservedWords : List String :=
  ["null", "Null", "NULL", "~", "true", "True", "TRUE", "false", "False", "FALSE"]

/-- A text without a sign at its front. -/
def dropSign : List Char → List Char
  | '-' :: text => text
  | '+' :: text => text
  | text => text

/-- The value of a digit in any base up to sixteen. -/
def digitValue? (c : Char) : Option Nat :=
  if c.isDigit then some (c.toNat - '0'.toNat)
  else if 'a' ≤ c && c ≤ 'f' then some (c.toNat - 'a'.toNat + 10)
  else if 'A' ≤ c && c ≤ 'F' then some (c.toNat - 'A'.toNat + 10)
  else none

/-- The value of a number written in the given base. -/
def digitsValue? (base : Nat) (text : List Char) : Option Nat :=
  if text.isEmpty then none
  else
    text.foldlM (fun value c => do
      let digit ← digitValue? c
      if digit < base then some (value * base + digit) else none) 0

/-- The base that a mark such as `0x` announces. -/
def baseMarks : List (List Char × Nat) :=
  [(['0', 'x'], 16), (['0', 'o'], 8), (['0', 'b'], 2)]

/-- Whether a text is an integer with a base mark and no sign, at most `limit`. -/
def isMarkedInteger (limit : Nat) (text : List Char) : Bool :=
  baseMarks.any fun (mark, base) =>
    match (afterStart? mark text).bind (digitsValue? base) with
    | some value => value ≤ limit
    | none => false

/-- Whether a text is an integer with a base mark. Integers have 128 bits. -/
def isBasedInteger : List Char → Bool
  | '-' :: text => isMarkedInteger (Nat.pow 2 127) text
  | '+' :: text => isMarkedInteger (Nat.pow 2 128 - 1) text
  | text => isMarkedInteger (Nat.pow 2 128 - 1) text

/-- Whether a text, a sign apart, is a zero and further digits. -/
def isZeroPadded (text : List Char) : Bool :=
  match dropSign text with
  | '0' :: c :: rest => (c :: rest).all Char.isDigit
  | _ => false

/-- A text cut before its first character that is not a digit. -/
def spanDigits (text : List Char) : List Char × List Char :=
  (text.takeWhile Char.isDigit, text.dropWhile Char.isDigit)

/-- The value of decimal digits. -/
def decimalValue (digits : List Char) : Nat :=
  digits.foldl (fun value c => value * 10 + (c.toNat - '0'.toNat)) 0

/-- The exponent at the end of a number; without one it is zero. -/
def exponent? (text : List Char) : Option Int :=
  match text with
  | [] => some 0
  | mark :: text =>
      let digits := dropSign text
      if (mark == 'e' || mark == 'E') && !digits.isEmpty && digits.all Char.isDigit then
        let value := Int.ofNat (decimalValue digits)
        some (if text.head? == some '-' then -value else value)
      else none

/-- The digits and the exponent of a decimal number without a sign. -/
def decimal? (text : List Char) : Option (List Char × Int) :=
  let (whole, rest) := spanDigits text
  let (fraction, rest) := match rest with
    | '.' :: rest => spanDigits rest
    | rest => ([], rest)
  if whole.isEmpty && fraction.isEmpty then none
  else (exponent? rest).map fun exponent => (whole ++ fraction, exponent - fraction.length)

/-- Whether `digits · 10 ^ exponent` is less than every number that is rounded to infinity. -/
def isFinite (digits : Nat) (exponent : Int) : Bool :=
  if digits = 0 then true
  else
    match exponent with
    | .ofNat n => n < 400 && digits * Nat.pow 10 n < Nat.pow 2 1024 - Nat.pow 2 970
    | .negSucc n =>
        if (naturalLength digits) + 400 < n then true
        else digits < (Nat.pow 2 1024 - Nat.pow 2 970) * Nat.pow 10 (n + 1)
where
  /-- The number of decimal digits. -/
  naturalLength (n : Nat) : Nat := (Nat.toDigits 10 n).length

/-- Whether a text is a decimal number that is finite. -/
def isDecimal (text : List Char) : Bool :=
  match decimal? (dropSign text) with
  | some (digits, exponent) => isFinite (decimalValue digits) exponent
  | none => false

/-- The spellings of infinity, a sign apart. -/
def infinityWords : List String := [".inf", ".Inf", ".INF"]

/-- The spellings of the value that is no number. -/
def notNumberWords : List String := [".nan", ".NaN", ".NAN"]

/-- Whether a plain scalar with this text would not be read as a text. -/
def isAmbiguous (text : String) : Bool :=
  let chars := text.toList
  chars.isEmpty || reservedWords.contains text || isBasedInteger chars || isZeroPadded chars ||
    isDecimal chars || infinityWords.contains (String.ofList (dropSign chars)) ||
    notNumberWords.contains text

end DocApi.Yaml
