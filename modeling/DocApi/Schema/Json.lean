import DocApi.Json.Record
import DocApi.Schema.Basic

/-!
# Schemas as JSON

How a schema is written into a description and read back from one.
-/

namespace DocApi.Schema

mutual

/-- A schema as a JSON value. -/
def toJson : Schema → Json
  | ⟨reference, type, format, description, nullable, items, additional, properties, required,
      example?, values⟩ =>
      .record
        [Json.field? "$ref" (reference.map .string),
          Json.field? "type" (type.map .string),
          Json.field? "format" (format.map .string),
          Json.field? "description" (description.map .string),
          Json.flag "nullable" nullable,
          Json.field? "items" (optionToJson items),
          Json.field? "additionalProperties" (optionToJson additional),
          Json.field? "properties" (propertiesToJson properties),
          Json.list "required" (required.map .string),
          Json.field? "example" example?,
          Json.field? "enum" (values.map .array)]

/-- A schema that may be missing. -/
def optionToJson : Option Schema → Option Json
  | none => none
  | some schema => some (toJson schema)

/-- The properties of an object, when it has a table of them. -/
def propertiesToJson : Option (List (String × Schema)) → Option Json
  | none => none
  | some properties => some (.object (tableToJson properties))

/-- Named schemas. -/
def tableToJson : List (String × Schema) → List (String × Json)
  | [] => []
  | (name, schema) :: rest => (name, toJson schema) :: tableToJson rest

end

/-- The names of the fields, in the order in which they are written. -/
def fieldNames : List String :=
  ["$ref", "type", "format", "description", "nullable", "items", "additionalProperties",
    "properties", "required", "example", "enum"]

/-- Reads a schema. -/
def ofJson? (value : Json) : Option Schema :=
  match _read : Json.record? fieldNames 11 value with
  | none => none
  | some members => do
      let reference ← Json.optional? members "$ref" Json.string?
      let type ← Json.optional? members "type" Json.string?
      let format ← Json.optional? members "format" Json.string?
      let description ← Json.optional? members "description" Json.string?
      let nullable ← Json.defaulted? members "nullable" false Json.bool?
      let items ← Json.memberOf? members "items" fun item _found => ofJson? item
      let additional ← Json.memberOf? members "additionalProperties" fun item _found => ofJson? item
      let properties ← Json.memberOf? members "properties" fun item found =>
        match item, found with
        | .object entries, _found =>
            entries.attach.mapM fun ⟨(name, entry), _member⟩ => do return (name, ← ofJson? entry)
        | _, _ => none
      let required ← Json.defaulted? members "required" [] (Json.listOf? Json.string?)
      let example? ← Json.optional? members "example" some
      let values ← Json.optional? members "enum" Json.items?
      return { reference, type, format, description, nullable, items, additional, properties,
               required, example?, values }
termination_by sizeOf value
decreasing_by
  · exact Json.sizeOf_lt_of_record? _read _found
  · exact Json.sizeOf_lt_of_record? _read _found
  · have inObject := Json.sizeOf_lt_of_mem _member
    have inRecord := Json.sizeOf_lt_of_record? _read _found
    simp only [Json.object.sizeOf_spec] at inRecord
    omega

end DocApi.Schema
