import DocApi.Decimal.Shortest

/-!
# Notation of numbers

A number that is not an integer is written with a point when its size lies between `0.00001` and
`10 ^ 16`, and with an exponent otherwise. The two output formats differ only in the sign of the
exponent.
-/

namespace DocApi

/-- How a format writes numbers with an exponent. -/
structure NumberNotation where
  /-- Whether a plus sign stands before an exponent that is not negative. -/
  signedExponent : Bool

/-- Decimal digits of a natural number. -/
def naturalText (n : Nat) : List Char := Nat.toDigits 10 n

/-- Decimal text of an integer. -/
def integerText (n : Int) : List Char :=
  match n with
  | .ofNat n => naturalText n
  | .negSucc n => '-' :: naturalText (n + 1)

namespace NumberNotation

/-- The digits with a point and an exponent part. -/
def scientific (style : NumberNotation) (digits : List Char) (exponent : Int) : List Char :=
  let front := match digits with
    | [] => []
    | [d] => [d]
    | d :: more => d :: '.' :: more
  let sign := if style.signedExponent && 0 ≤ exponent then ['+'] else []
  front ++ 'e' :: sign ++ integerText exponent

/-- The digits with a point after the first `whole` ones, with zeros where digits are missing. -/
def positional (digits : List Char) (whole : Int) : List Char :=
  match whole with
  | .ofNat 0 => '0' :: '.' :: digits
  | .ofNat (n + 1) =>
      let fraction := digits.drop (n + 1)
      digits.take (n + 1) ++ List.replicate (n + 1 - digits.length) '0' ++ '.' ::
        (if fraction.isEmpty then ['0'] else fraction)
  | .negSucc n => '0' :: '.' :: (List.replicate (n + 1) '0' ++ digits)

/-- The text of a number. -/
def write (style : NumberNotation) (number : Binary64) : List Char :=
  let sign := if number.negative then ['-'] else []
  if number.significand = 0 then sign ++ ['0', '.', '0']
  else
    let decimal := number.shortest
    let digits := naturalText decimal.digits
    let whole := Int.ofNat digits.length + decimal.exponent
    sign ++
      if -5 < whole && whole ≤ 16 then positional digits whole
      else style.scientific digits (whole - 1)

end NumberNotation

end DocApi
