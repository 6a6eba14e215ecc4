import DocApi.Document.Basic

/-!
# Specifications under construction

A specification gathers what the annotations of source files say. General information is
overwritten by later lines, lists grow, and a name keeps the schema that was declared for it
first.
-/

namespace DocApi

/-- An operation as its annotations describe it. Without a method and a path it is none. -/
structure OperationDraft where
  method : Option Method := none
  path : String := ""
  operationId : String := ""
  summary : String := ""
  description : String := ""
  tags : List String := []
  deprecated : Bool := false
  parameters : List Parameter := []
  requestBody : Option RequestBody := none
  /-- The responses by their status. -/
  responses : Keyed Response := []
  security : List SecurityRequirement := []
deriving Repr

/-- Whether an operation has a method and a path. -/
def OperationDraft.isRouted (operation : OperationDraft) : Bool :=
  operation.method.isSome && operation.path != ""

/-- A schema with its name. -/
structure NamedSchema where
  name : String
  description : String := ""
  schema : Schema
  /-- The examples that annotations give for the properties. -/
  examples : Keyed Json := []
deriving Repr

/-- A link that is listed in the description of the interface. -/
structure Link where
  label : String
  url : String
deriving DecidableEq, Repr

/-- What is known of an interface so far. -/
structure Spec where
  /-- The version of the format. -/
  version : String := "3.0.3"
  info : Info := {}
  servers : List Server := []
  tags : List Tag := []
  operations : List OperationDraft := []
  /-- The schemas that are declared by a line of their own. -/
  schemas : Keyed NamedSchema := []
  /-- The schemas of structs. -/
  models : Keyed NamedSchema := []
  securitySchemes : Keyed SecurityScheme := []
  externalDocs : Option ExternalDocs := none
  links : List Link := []
deriving Repr

namespace Spec

/-- Adds an operation, when it has a method and a path. -/
def addOperation (spec : Spec) (operation : OperationDraft) : Spec :=
  if operation.isRouted then { spec with operations := spec.operations ++ [operation] } else spec

/-- Files a schema under its own name, unless the name is taken, and tells whether it did. -/
def fileSchema (schemas : Keyed NamedSchema) (schema : NamedSchema) : Bool × Keyed NamedSchema :=
  if Keyed.holds schemas schema.name then (false, schemas)
  else (true, Keyed.put schemas schema.name schema)

/-- Adds a declared schema, unless its name is taken by one, and tells whether it did. -/
def insertSchema (spec : Spec) (schema : NamedSchema) : Bool × Spec :=
  let (inserted, schemas) := fileSchema spec.schemas schema
  (inserted, { spec with schemas })

/-- Adds the schema of a struct, unless its name is taken by one, and tells whether it did. -/
def insertModel (spec : Spec) (model : NamedSchema) : Bool × Spec :=
  let (inserted, models) := fileSchema spec.models model
  (inserted, { spec with models })

/-- Adds a declared schema, unless its name is taken by one. -/
def addSchema (spec : Spec) (schema : NamedSchema) : Spec := (spec.insertSchema schema).2

/-- Adds the schema of a struct, unless its name is taken by one. -/
def addModel (spec : Spec) (model : NamedSchema) : Spec := (spec.insertModel model).2

/-- Adds a link. -/
def addLink (spec : Spec) (link : Link) : Spec := { spec with links := spec.links ++ [link] }

/-- All schemas: the declared ones, and then those of structs whose names are free. -/
def mergedSchemas (spec : Spec) : Keyed NamedSchema :=
  spec.models.foldl (fun merged entry => Keyed.putNew merged entry.1 entry.2) spec.schemas

end Spec

end DocApi
