/-!
# Binary floating point numbers

Numbers that are not integers are held with 53 significant bits. A number is kept as its sign, its
integral significand and the power of two it is scaled by, so that rounding, products and quotients
are exact integer arithmetic followed by one rounding to nearest, ties to even.
-/

namespace DocApi

/-- A finite binary number with 53 significant bits: `significand · 2 ^ exponent` and a sign. -/
structure Binary64 where
  /-- Whether the number carries a minus sign; zero carries one too. -/
  negative : Bool
  /-- The integral significand, below `2 ^ 53`. -/
  significand : Nat
  /-- The power of two that scales the significand. -/
  exponent : Int
deriving DecidableEq, Repr

namespace Binary64

/-- The least exponent, that of zero and of the smallest numbers. -/
def leastExponent : Int := -1074

/-- The greatest exponent. -/
def greatestExponent : Int := 971

/-- The quotient of two naturals rounded to an integer, a tie going to the even one. -/
def roundQuotient (numerator denominator : Nat) : Nat :=
  let quotient := numerator / denominator
  let twice := 2 * (numerator % denominator)
  if denominator < twice || (twice == denominator && quotient % 2 == 1) then quotient + 1
  else quotient

/-- `numerator / (denominator · 2 ^ exponent)` as a quotient of naturals. -/
def scaleDown (numerator denominator : Nat) (exponent : Int) : Nat × Nat :=
  match exponent with
  | .ofNat up => (numerator, denominator * Nat.pow 2 up)
  | .negSucc down => (numerator * Nat.pow 2 (down + 1), denominator)

/-- The exponent with which `numerator / denominator` has a significand of 53 bits, or the least
one when the quotient is too small for that. -/
def fittingExponent (numerator denominator : Nat) : Int :=
  let guess : Int := Int.ofNat numerator.log2 - Int.ofNat denominator.log2 - 52
  let scaled := scaleDown numerator denominator guess
  let exact := if scaled.1 / scaled.2 < Nat.pow 2 52 then guess - 1 else guess
  max exact leastExponent

/-- The number nearest to `numerator / denominator`, ties to even; `none` when it is too large. -/
def ofQuotient? (negative : Bool) (numerator denominator : Nat) : Option Binary64 :=
  if numerator = 0 then some ⟨negative, 0, leastExponent⟩
  else
    let exponent := fittingExponent numerator denominator
    let scaled := scaleDown numerator denominator exponent
    let significand := roundQuotient scaled.1 scaled.2
    let result :=
      if significand = Nat.pow 2 53 then ⟨negative, Nat.pow 2 52, exponent + 1⟩
      else (⟨negative, significand, exponent⟩ : Binary64)
    if greatestExponent < result.exponent then none else some result

/-- The size of a number as a quotient of naturals. -/
def magnitude (number : Binary64) : Nat × Nat :=
  match number.exponent with
  | .ofNat up => (number.significand * Nat.pow 2 up, 1)
  | .negSucc down => (number.significand, Nat.pow 2 (down + 1))

/-- The rounded product of two sizes, with the sign of the first. -/
def times? (left right : Binary64) : Option Binary64 :=
  let a := left.magnitude
  let b := right.magnitude
  ofQuotient? left.negative (a.1 * b.1) (a.2 * b.2)

/-- The rounded quotient of two sizes, with the sign of the first. -/
def over? (left right : Binary64) : Option Binary64 :=
  let a := left.magnitude
  let b := right.magnitude
  ofQuotient? left.negative (a.1 * b.2) (a.2 * b.1)

/-- The greatest power of ten that is scaled by in one step. -/
def greatestPower : Nat := 308

/-- The number nearest to `10 ^ power`. -/
def powerOfTen? (power : Nat) : Option Binary64 := ofQuotient? false (Nat.pow 10 power) 1

/-- Divides by the greatest power of ten `steps` times, as long as anything is left, and then by
`10 ^ rest`. -/
def dropPowers : (steps rest : Nat) → (number : Binary64) → Option Binary64
  | 0, rest, number => (powerOfTen? rest).bind number.over?
  | steps + 1, rest, number =>
      if number.significand = 0 then some number
      else ((powerOfTen? greatestPower).bind number.over?).bind (dropPowers steps rest)

/-- Reads `digits · 10 ^ exponent`: the digits and the power of ten are rounded first, then their
product or quotient. `none` when the result is too large. -/
def ofDecimal? (negative : Bool) (digits : Nat) (exponent : Int) : Option Binary64 := do
  let start ← ofQuotient? negative digits 1
  match exponent with
  | .ofNat up =>
      if start.significand = 0 then some start
      else if greatestPower < up then none
      else start.times? (← powerOfTen? up)
  | .negSucc down =>
      let steps := down / greatestPower
      dropPowers steps (down + 1 - steps * greatestPower) start

end Binary64

end DocApi
