import DocApi.Json.Value

/-!
# Records as JSON

A record is written as an object with one member for each of its fields; fields without a value
are left out. It can be read from such an object in any order of the members, and also from an
array that gives the fields by position.
-/

namespace DocApi.Json

variable {α : Type}

/-! ## Writing -/

/-- A member that is always written. -/
def field (key : String) (value : Json) : Option (String × Json) := some (key, value)

/-- A member that is written when it has a value. -/
def field? (key : String) (value : Option Json) : Option (String × Json) :=
  value.map fun value => (key, value)

/-- A member that is written when it is on. -/
def flag (key : String) (value : Bool) : Option (String × Json) :=
  if value then some (key, .bool true) else none

/-- A member that is written when there are items. -/
def list (key : String) (items : List Json) : Option (String × Json) :=
  if items.isEmpty then none else some (key, .array items)

/-- A member that is written when there are entries. -/
def table (key : String) (entries : List (String × Json)) : Option (String × Json) :=
  if entries.isEmpty then none else some (key, .object entries)

/-- A record from its members. -/
def record (members : List (Option (String × Json))) : Json := .object (members.filterMap id)

/-! ## Reading -/

/-- The members of a record with the fields `names`. In an array at least the first `least` of
them must be given. -/
def record? (names : List String) (least : Nat) : Json → Option (List (String × Json))
  | .object members => some members
  | .array items =>
      if least ≤ items.length && items.length ≤ names.length then some (names.zip items) else none
  | _ => none

/-- Reads a member that must be there. -/
def required? (members : List (String × Json)) (key : String) (read : Json → Option α) : Option α :=
  (Keyed.at? members key).bind read

/-- Reads a member that stands for `fallback` when it is missing. -/
def defaulted? (members : List (String × Json)) (key : String) (fallback : α)
    (read : Json → Option α) : Option α :=
  match Keyed.at? members key with
  | none => some fallback
  | some value => read value

/-- Reads a member that may be missing or null; the reader is told that the member is there. -/
def memberOf? (members : List (String × Json)) (key : String)
    (read : (value : Json) → Keyed.at? members key = some value → Option α) : Option (Option α) :=
  match found : Keyed.at? members key with
  | none => some none
  | some .null => some none
  | some value => (read value found).map some

/-- Reads a member that may be missing or null. -/
def optional? (members : List (String × Json)) (key : String) (read : Json → Option α) :
    Option (Option α) :=
  memberOf? members key fun value _ => read value

/-- Reads every item of an array. -/
def listOf? (read : Json → Option α) : Json → Option (List α)
  | .array items => items.mapM read
  | _ => none

/-- Reads every value of an object. -/
def tableOf? (read : Json → Option α) : Json → Option (List (String × α))
  | .object members => members.mapM fun member => do return (member.1, ← read member.2)
  | _ => none

/-! ## Sizes -/

/-- A value in a table is smaller than the table. -/
theorem sizeOf_lt_of_mem {members : List (String × Json)} {key : String} {value : Json}
    (h : (key, value) ∈ members) : sizeOf value < sizeOf members := by
  have := List.sizeOf_lt_of_mem h
  simp only [Prod.mk.sizeOf_spec] at this
  omega

/-- A member of a record is smaller than the record. -/
theorem sizeOf_lt_of_record? {names : List String} {least : Nat} {value item : Json}
    {members : List (String × Json)} {key : String}
    (read : record? names least value = some members)
    (found : Keyed.at? members key = some item) : sizeOf item < sizeOf value := by
  have member := Keyed.mem_of_at? found
  cases value with
  | object entries =>
      simp only [record?, Option.some.injEq] at read
      subst read
      have := sizeOf_lt_of_mem member
      simp only [object.sizeOf_spec]
      omega
  | array items =>
      simp only [record?, Option.ite_none_right_eq_some, Option.some.injEq] at read
      rw [← read.2] at member
      have := List.sizeOf_lt_of_mem (List.of_mem_zip member).2
      simp only [array.sizeOf_spec]
      omega
  | null => simp [record?] at read
  | bool _ => simp [record?] at read
  | number _ => simp [record?] at read
  | string _ => simp [record?] at read

end DocApi.Json
