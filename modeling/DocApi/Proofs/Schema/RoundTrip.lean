import DocApi.Proofs.Json.Record
import DocApi.Proofs.Schema.WellFormed
import DocApi.Schema.Json

/-!
# Reading schemas back

A schema that is written as JSON and read again is the same schema, except for one thing: an
example that is null looks like no example. This is so at every depth, and it is all that is lost.
-/

namespace DocApi

open Json

/-- An example as it is read back: null stands for none. -/
def settleExample : Option Json → Option Json
  | some .null => none
  | given => given

theorem settleExample_eq_self_iff (given : Option Json) :
    settleExample given = given ↔ given ≠ some .null := by
  unfold settleExample
  split <;> simp_all

theorem readOptional_example (given : Option Json) :
    readOptional some given = some (settleExample given) := by
  unfold readOptional settleExample
  split <;> simp_all

namespace Schema

mutual

/-- The schema without the examples that are null. -/
def withoutNullExamples : Schema → Schema
  | ⟨reference, type, format, description, nullable, items, additional, properties, required,
      example?, values⟩ =>
      { reference, type, format, description, nullable, required, values
        items := optionWithoutNullExamples items
        additional := optionWithoutNullExamples additional
        properties := propertiesWithoutNullExamples properties
        example? := settleExample example? }

/-- A schema that may be missing. -/
def optionWithoutNullExamples : Option Schema → Option Schema
  | none => none
  | some schema => some (withoutNullExamples schema)

/-- The properties of an object, when it has a table of them. -/
def propertiesWithoutNullExamples :
    Option (List (String × Schema)) → Option (List (String × Schema))
  | none => none
  | some properties => some (tableWithoutNullExamples properties)

/-- Named schemas. -/
def tableWithoutNullExamples : List (String × Schema) → List (String × Schema)
  | [] => []
  | (name, schema) :: rest => (name, withoutNullExamples schema) :: tableWithoutNullExamples rest

end

/-! ## The reader by members -/

/-- Reads a schema from the members of its record. -/
def ofMembers? (members : List (String × Json)) : Option Schema := do
  return {
    reference := ← optional? members "$ref" string?
    type := ← optional? members "type" string?
    format := ← optional? members "format" string?
    description := ← optional? members "description" string?
    nullable := ← defaulted? members "nullable" false bool?
    items := ← optional? members "items" ofJson?
    additional := ← optional? members "additionalProperties" ofJson?
    properties := ← optional? members "properties" (tableOf? ofJson?)
    required := ← defaulted? members "required" [] (listOf? string?)
    example? := ← optional? members "example" some
    values := ← optional? members "enum" items? }

theorem mapM_attach {β : Type} (read : String × Json → Option β) (entries : List (String × Json)) :
    (entries.attach.mapM fun entry => read entry.1) = entries.mapM read := by
  conv_rhs => rw [← List.attach_map_subtype_val entries]
  rw [List.mapM_map]
  rfl

theorem memberOf?_properties (members : List (String × Json)) :
    (memberOf? members "properties" fun item found =>
        match item, found with
        | .object entries, _ =>
            entries.attach.mapM fun entry => do return (entry.1.1, ← ofJson? entry.1.2)
        | _, _ => none) = optional? members "properties" (tableOf? ofJson?) := by
  rw [optional?]
  congr 1
  funext item found
  cases item with
  | object entries =>
      exact mapM_attach (fun entry => do return (entry.1, ← ofJson? entry.2)) entries
  | _ => rfl

theorem ofJson?_eq (value : Json) :
    ofJson? value = (record? fieldNames 11 value).bind ofMembers? := by
  rw [ofJson?]
  split
  · rename_i missing
    rw [missing]
    rfl
  · rename_i members found
    rw [found, Option.bind_some, ofMembers?, ← memberOf?_properties]
    rfl

/-! ## The round trip -/

theorem toJson_ne_null (schema : Schema) : schema.toJson ≠ .null := by
  cases schema
  rw [toJson]
  exact record_ne_null _

mutual

theorem ofJson?_toJson : (schema : Schema) →
    ofJson? schema.toJson = some schema.withoutNullExamples
  | ⟨reference, type, format, description, nullable, items, additional, properties, required,
      example?, values⟩ => by
      have inItems := readOptional_optionToJson items
      have inAdditional := readOptional_optionToJson additional
      have inProperties := readOptional_propertiesToJson properties
      have inRequired := readsBack_string.defaultedList required
      have inValues := readsBack_array.optional values
      rw [toJson, ofJson?_eq, withoutNullExamples, record?_record, Option.bind_some, ofMembers?]
      simp [inItems, inAdditional, inProperties, inRequired, inValues, readsBack_string.optional,
        readOptional_example]

theorem readOptional_optionToJson : (schema : Option Schema) →
    readOptional ofJson? (optionToJson schema) = some (optionWithoutNullExamples schema)
  | none => by rw [optionToJson, optionWithoutNullExamples]; rfl
  | some schema => by
      rw [optionToJson, optionWithoutNullExamples, readOptional_some (toJson_ne_null schema),
        ofJson?_toJson schema]
      rfl

theorem readOptional_propertiesToJson : (properties : Option (List (String × Schema))) →
    readOptional (tableOf? ofJson?) (propertiesToJson properties) =
      some (propertiesWithoutNullExamples properties)
  | none => by rw [propertiesToJson, propertiesWithoutNullExamples]; rfl
  | some properties => by
      have solid : Json.object (tableToJson properties) ≠ .null := nofun
      rw [propertiesToJson, propertiesWithoutNullExamples, readOptional_some solid, tableOf?,
        mapM_tableToJson properties]
      rfl

theorem mapM_tableToJson : (table : List (String × Schema)) →
    ((tableToJson table).mapM fun member => do return (member.1, ← ofJson? member.2)) =
      some (tableWithoutNullExamples table)
  | [] => by rw [tableToJson, tableWithoutNullExamples]; rfl
  | (name, schema) :: rest => by
      rw [tableToJson, tableWithoutNullExamples, List.mapM_cons, ofJson?_toJson schema,
        mapM_tableToJson rest]
      rfl

end

theorem readsBack : ReadsBack ofJson? toJson withoutNullExamples := ⟨ofJson?_toJson, toJson_ne_null⟩

/-! ## Schemas that are read back unchanged -/

/-- No node has null for its example. -/
def NullFree (schema : Schema) : Prop :=
  ∀ node : Schema, node.Within schema → node.example? ≠ some .null

theorem optionWithoutNullExamples_eq (schema : Option Schema) :
    optionWithoutNullExamples schema = schema.map withoutNullExamples := by
  cases schema <;> simp [optionWithoutNullExamples]

theorem tableWithoutNullExamples_eq (table : List (String × Schema)) :
    tableWithoutNullExamples table = Keyed.mapValues withoutNullExamples table := by
  induction table with
  | nil => rw [tableWithoutNullExamples]; rfl
  | cons entry table induction =>
      rcases entry with ⟨name, schema⟩
      rw [tableWithoutNullExamples, induction]
      rfl

theorem propertiesWithoutNullExamples_eq (properties : Option (List (String × Schema))) :
    propertiesWithoutNullExamples properties =
      properties.map (Keyed.mapValues withoutNullExamples) := by
  cases properties <;> simp [propertiesWithoutNullExamples, tableWithoutNullExamples_eq]

/-- Only examples change, at the topmost node and below it. -/
theorem withoutNullExamples_eq (schema : Schema) :
    schema.withoutNullExamples =
      { schema with
        items := schema.items.map withoutNullExamples
        additional := schema.additional.map withoutNullExamples
        properties := schema.properties.map (Keyed.mapValues withoutNullExamples)
        example? := settleExample schema.example? } := by
  cases schema
  simp [withoutNullExamples, optionWithoutNullExamples_eq, propertiesWithoutNullExamples_eq]

/-- What is unchanged is free of null examples: going down to a node, every step finds a schema
that is unchanged. -/
theorem nullFree_of_unchanged {schema : Schema} (unchanged : schema.withoutNullExamples = schema) :
    schema.NullFree := by
  intro node within
  induction within with
  | self =>
      have kept := congrArg Schema.example? unchanged
      rw [withoutNullExamples_eq] at kept
      exact (settleExample_eq_self_iff _).1 kept
  | items found _ induction =>
      have kept := congrArg Schema.items unchanged
      rw [withoutNullExamples_eq] at kept
      exact induction (by simpa [found] using kept)
  | additional found _ induction =>
      have kept := congrArg Schema.additional unchanged
      rw [withoutNullExamples_eq] at kept
      exact induction (by simpa [found] using kept)
  | property found member _ induction =>
      have kept := congrArg Schema.properties unchanged
      rw [withoutNullExamples_eq] at kept
      have each := (Keyed.mapValues_eq_self_iff _ _).1 (by simpa [found] using kept)
      exact induction (each _ member)

mutual

theorem NullFree.unchanged : (schema : Schema) → schema.NullFree →
    schema.withoutNullExamples = schema
  | ⟨reference, type, format, description, nullable, items, additional, properties, required,
      example?, values⟩, free => by
      have inItems := optionUnchanged items
        fun inner found node within => free node (.items found within)
      have inAdditional := optionUnchanged additional
        fun inner found node within => free node (.additional found within)
      have inProperties := propertiesUnchanged properties
        fun table found entry member node within => free node (.property found member within)
      have here := (settleExample_eq_self_iff example?).2 (free _ .self)
      rw [withoutNullExamples, inItems, inAdditional, inProperties, here]

theorem optionUnchanged : (schema : Option Schema) →
    (∀ inner, schema = some inner → inner.NullFree) → optionWithoutNullExamples schema = schema
  | none, _ => by rw [optionWithoutNullExamples]
  | some schema, free => by
      rw [optionWithoutNullExamples, NullFree.unchanged schema (free schema rfl)]

theorem propertiesUnchanged : (properties : Option (List (String × Schema))) →
    (∀ table, properties = some table → ∀ entry ∈ table, entry.2.NullFree) →
    propertiesWithoutNullExamples properties = properties
  | none, _ => by rw [propertiesWithoutNullExamples]
  | some properties, free => by
      rw [propertiesWithoutNullExamples, tableUnchanged properties (free properties rfl)]

theorem tableUnchanged : (table : List (String × Schema)) →
    (∀ entry ∈ table, entry.2.NullFree) → tableWithoutNullExamples table = table
  | [], _ => by rw [tableWithoutNullExamples]
  | (name, schema) :: rest, free => by
      have first := NullFree.unchanged schema (free _ List.mem_cons_self)
      have later := tableUnchanged rest fun entry member =>
        free entry (List.mem_cons_of_mem _ member)
      rw [tableWithoutNullExamples, first, later]

end

/-- A schema is read back as it is exactly when no node of it has null for its example. -/
theorem withoutNullExamples_eq_self_iff (schema : Schema) :
    schema.withoutNullExamples = schema ↔ schema.NullFree :=
  ⟨nullFree_of_unchanged, NullFree.unchanged schema⟩

end Schema
end DocApi
