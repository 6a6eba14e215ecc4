import DocApi.Json.Value
import DocApi.Text.Split

/-!
# Schemas

A schema describes the values of a parameter, a body or a property. It is a reference to a named
schema of the description, to which at most a description of its own is added, or it is written
out in place.
-/

namespace DocApi

/-- A node of a schema. -/
structure Schema where
  /-- The address of the schema that this node stands for. -/
  reference : Option String := none
  /-- The base type: `string`, `integer`, `number`, `boolean`, `array` or `object`. -/
  type : Option String := none
  /-- What the base type is refined to, such as `int64` or `date-time`. -/
  format : Option String := none
  description : Option String := none
  nullable : Bool := false
  /-- The schema of the items of an array. -/
  items : Option Schema := none
  /-- The schema of the values of an open map. -/
  additional : Option Schema := none
  /-- The properties of an object, in the order of their declaration. -/
  properties : Option (List (String × Schema)) := none
  /-- The names of the properties that are always there. -/
  required : List String := []
  example? : Option Json := none
  /-- The values that are allowed. -/
  values : Option (List Json) := none
deriving Repr, Inhabited

namespace Schema

/-- What every address of a named schema starts with. -/
def referenceStart : String := "#/components/schemas/"

/-- A reference to the schema `name`. -/
def ref (name : String) : Schema := { reference := some (referenceStart ++ name) }

/-- A schema of a base type. -/
def typed (type : String) (format : Option String) : Schema := { type := some type, format }

/-- An array; the items are left open when nothing is known of them. -/
def array (items : Option Schema) : Schema := { type := some "array", items }

/-- An open map with strings as keys. -/
def map (values : Option Schema) : Schema := { type := some "object", additional := values }

/-- An object without properties so far. -/
def object : Schema := { type := some "object", properties := some [] }

/-- Whether the node is a reference. -/
def isReference (schema : Schema) : Bool := schema.reference.isSome

/-- Whether the node says nothing at all. -/
def isEmpty : Schema → Bool
  | ⟨none, none, none, none, false, none, none, none, [], none, none⟩ => true
  | _ => false

/-- The schema itself, unless it says nothing. -/
def nonEmpty? (schema : Schema) : Option Schema := if schema.isEmpty then none else some schema

/-- The name of the schema that a reference points to. -/
def referencedName (schema : Schema) : Option String := do
  let address ← schema.reference
  let name ← afterStart? referenceStart.toList address.toList
  return String.ofList name

/-- Makes a property required, unless it is so already. -/
def markRequired (schema : Schema) (name : String) : Schema :=
  if schema.required.contains name then schema
  else { schema with required := schema.required ++ [name] }

end Schema

end DocApi
