import DocApi.Keyed
import DocApi.Decimal.Binary64

/-!
# JSON values

Example and enum values of an interface description are arbitrary JSON values, and a whole
description can be read from and written as one. Objects keep the order of their members, and a
number remembers whether it was written as an integer.
-/

namespace DocApi

/-- A JSON number: an integer of at most 64 bits, or a floating point number. -/
inductive JsonNumber where
  /-- An integer between `-2 ^ 63` and `2 ^ 64 - 1`. -/
  | integer (value : Int)
  /-- Any other number. -/
  | float (value : Binary64)
deriving DecidableEq, Repr

/-- A JSON value. -/
inductive Json where
  | null
  | bool (value : Bool)
  | number (value : JsonNumber)
  | string (value : String)
  | array (items : List Json)
  /-- The members in order; the reader never gives a key twice. -/
  | object (members : List (String × Json))
deriving Repr, Inhabited

namespace Json

/-- An integer as a JSON value. -/
def ofNat (n : Nat) : Json := .number (.integer n)

/-- A string, or null when there is none. -/
def ofString? : Option String → Json
  | some value => .string value
  | none => .null

/-- The member `key` of an object. -/
def member? (value : Json) (key : String) : Option Json :=
  match value with
  | .object members => Keyed.at? members key
  | _ => none

/-- The text of a string value. -/
def string? : Json → Option String
  | .string value => some value
  | _ => none

/-- The truth value of a boolean. -/
def bool? : Json → Option Bool
  | .bool value => some value
  | _ => none

/-- The items of an array. -/
def items? : Json → Option (List Json)
  | .array items => some items
  | _ => none

/-- The members of an object. -/
def members? : Json → Option (List (String × Json))
  | .object members => some members
  | _ => none

end Json

end DocApi
