import DocApi.Decimal.Binary64

/-!
# Shortest decimals

The text of a binary number is the shortest decimal that reads back as that number; of several, the
one nearest to the number. The decimals that read back form an interval around it, whose ends
belong to it when the significand is even.
-/

namespace DocApi

/-- `digits · 10 ^ exponent`. -/
structure Decimal where
  /-- The significant digits as one natural number. -/
  digits : Nat
  /-- The power of ten that scales them. -/
  exponent : Int
deriving DecidableEq, Repr

namespace Binary64

/-- The decimals that read back as a number: all quotients over `unit` from `low` to `high`, where
the number itself is `center`. -/
structure Neighbourhood where
  /-- Numerator of the lower end. -/
  low : Nat
  /-- Numerator of the number itself. -/
  center : Nat
  /-- Numerator of the upper end. -/
  high : Nat
  /-- The common denominator. -/
  unit : Nat
  /-- Whether the ends belong to the interval. -/
  closed : Bool

/-- The interval of the decimals that read back as `number`. Below a power of two the next number
is only half as far away. -/
def neighbourhood (number : Binary64) : Neighbourhood :=
  let scale := match number.exponent with
    | .ofNat up => (Nat.pow 2 up, 1)
    | .negSucc down => (1, Nat.pow 2 (down + 1))
  let below := if number.significand = Nat.pow 2 52 ∧ leastExponent < number.exponent then 1 else 2
  { low := (4 * number.significand - below) * scale.1
    center := 4 * number.significand * scale.1
    high := (4 * number.significand + 2) * scale.1
    unit := 4 * scale.2
    closed := number.significand % 2 == 0 }

/-- Whether `digits · 10 ^ exponent`, written as `numerator / denominator`, lies in the interval. -/
def Neighbourhood.holds (n : Neighbourhood) (numerator denominator : Nat) : Bool :=
  let value := numerator * n.unit
  let low := n.low * denominator
  let high := n.high * denominator
  if n.closed then low ≤ value && value ≤ high else low < value && value < high

/-- The nearest decimal with the given exponent inside the interval, an exact tie going to even
digits. -/
def Neighbourhood.atExponent? (n : Neighbourhood) (exponent : Int) : Option Decimal :=
  let scale := match exponent with
    | .ofNat up => (Nat.pow 10 up, 1)
    | .negSucc down => (1, Nat.pow 10 (down + 1))
  let lower := n.center * scale.2 / (n.unit * scale.1)
  let inside := fun digits => n.holds (digits * scale.1) scale.2
  let rest := n.center * scale.2 - lower * scale.1 * n.unit
  let gap := (lower + 1) * scale.1 * n.unit - n.center * scale.2
  match inside lower, inside (lower + 1) with
  | true, true =>
      if rest < gap || (rest == gap && lower % 2 == 0) then some ⟨lower, exponent⟩
      else some ⟨lower + 1, exponent⟩
  | true, false => some ⟨lower, exponent⟩
  | false, true => some ⟨lower + 1, exponent⟩
  | false, false => none

/-- The first hit when the exponent goes down from `exponent`, at most `steps` times. -/
def Neighbourhood.search (n : Neighbourhood) : (steps : Nat) → (exponent : Int) → Option Decimal
  | 0, _ => none
  | steps + 1, exponent =>
      match n.atExponent? exponent with
      | some decimal => if decimal.digits = 0 then n.search steps (exponent - 1) else some decimal
      | none => n.search steps (exponent - 1)

/-- Drops the zeros at the end of the digits. -/
def dropZeros (digits : Nat) (exponent : Int) : Decimal :=
  if h : digits ≠ 0 ∧ digits % 10 = 0 then dropZeros (digits / 10) (exponent + 1)
  else ⟨digits, exponent⟩
termination_by digits
decreasing_by omega

/-- The number of decimal digits of a natural. -/
def digitCount (n : Nat) : Nat := (Nat.toDigits 10 n).length

/-- The shortest decimal that reads back as `number`, nearest to it among those. -/
def shortest (number : Binary64) : Decimal :=
  if number.significand = 0 then ⟨0, 0⟩
  else
    let n := number.neighbourhood
    let size := number.magnitude
    let top : Int := Int.ofNat (digitCount size.1) - Int.ofNat (digitCount size.2) + 1
    match n.search 30 top with
    | some decimal => dropZeros decimal.digits decimal.exponent
    | none => ⟨0, 0⟩

end Binary64

end DocApi
