import DocApi.Schema.Basic
import DocApi.TypeExpr

/-!
# Schemas of types

Every type has a schema: primitives and well-known types have one of their own, collections are
arrays and maps, and any other name is a reference to a model. A type without a rule has the empty
schema, which is left out wherever it would stand for items or values.
-/

namespace DocApi

/-- The base type and format of the primitives, in the words of declared types as well as of
annotations. -/
def primitives : List (List String × String × Option String) :=
  [(["String", "str", "char", "string"], "string", none),
    (["i8", "i16", "i32", "u8", "u16", "u32", "int", "int8", "int16", "int32", "integer", "uint",
      "uint8", "uint16", "uint32"], "integer", some "int32"),
    (["i64", "i128", "isize", "u64", "u128", "usize", "int64", "uint64"], "integer", some "int64"),
    (["f32", "float", "float32"], "number", some "float"),
    (["f64", "float64", "double", "number"], "number", some "double"),
    (["bool", "boolean"], "boolean", none),
    (["byte"], "string", some "byte"),
    (["any", "object"], "object", none),
    (["array"], "array", none)]

/-- The base type and format of a primitive. -/
def primitive? (name : String) : Option (String × Option String) :=
  (primitives.find? fun entry => entry.1.contains name).map Prod.snd

/-- The format of a well-known type that is exchanged as a string. -/
def wellKnownFormat? (name : String) : Option String :=
  if name = "DateTime" || name = "NaiveDateTime" || name = "OffsetDateTime" then some "date-time"
  else if name = "NaiveDate" then some "date"
  else if name = "Uuid" then some "uuid"
  else none

/-- The schema of a well-known type. -/
def wellKnown? (name : String) : Option Schema :=
  (wellKnownFormat? name).map fun format => .typed "string" (some format)

namespace Schema

/-- The schema of a name: a primitive, a well-known type, or a reference to a model. -/
def ofName (name : String) : Schema :=
  match primitive? name with
  | some (type, format) => .typed type format
  | none => (wellKnown? name).getD (.ref name)

/-- The schema of a value that may be missing. References and empty schemas cannot say so. -/
def orNull (schema : Schema) : Schema :=
  if schema.isReference || schema.isEmpty then schema else { schema with nullable := true }

/-- The schema of a type. -/
def ofType : TypeExpr → Schema
  | .named name => ofName name
  | .optional inner => (ofType inner).orNull
  | .sequence element => .array (ofType element).nonEmpty?
  | .map value => .map (ofType value).nonEmpty?
  | .foreign _ name => (wellKnown? name).getD {}
  | .unsupported => {}

/-- The schema of a type word. -/
def ofWord (word : String) : Schema := ofType (TypeExpr.ofWord word.toList)

/-- The schema of the schema word of a body or response. With a sequence marker it is an array of
references to what the marker leaves, whatever that is; otherwise it is a type word. -/
def ofToken (token : String) : Schema :=
  match TypeExpr.dropSequenceMark? (trim token.toList) with
  | some element =>
      let name := trim element
      if name.isEmpty then .array none else .array (some (.ref (String.ofList name)))
  | none => ofWord token

end Schema

end DocApi
