import DocApi.Spec.Model
import DocApi.Spec.Security

/-!
# Gathering annotations

The declarations of a file are folded into a specification: first what its doc comments say about
the interface as a whole, then one operation for each annotated routine, then the schema of each
struct that is marked as a model.
-/

namespace DocApi

/-! ## Operations -/

/-- The parameter that an annotation line declares. Parameters in a path are always required. -/
def Parameter.ofLine (line : ParameterLine) : Parameter :=
  let schema := Schema.ofWord line.type
  { name := line.name
    location := line.location
    description := nonEmptyText? line.description
    required := line.required || line.location = .path
    schema := if schema.isReference then schema else { schema with values := line.values }
    example? := line.example?.or line.default }

/-- The request body that an annotation line declares. -/
def RequestBody.ofLine (line : BodyLine) : RequestBody where
  description := nonEmptyText? line.description
  required := line.required
  content := jsonContent (.ofToken line.schema)

/-- The response that an annotation line declares. -/
def Response.ofLine (line : ResponseLine) : Response where
  description := line.description
  content := if line.hasBody then some (jsonContent (.ofToken line.schema)) else none

namespace OperationDraft

/-- Adds what one annotation says about an operation. -/
def apply (operation : OperationDraft) : Annotation → OperationDraft
  | .route line =>
      { operation with
        method := some line.method
        path := line.path
        operationId := line.operationId
        summary := line.summary
        tags := line.tags
        deprecated := operation.deprecated || line.deprecated }
  | .parameter line =>
      { operation with parameters := operation.parameters ++ [.ofLine line] }
  | .body line => { operation with requestBody := some (.ofLine line) }
  | .response line =>
      { operation with responses := Keyed.put operation.responses line.status (.ofLine line) }
  | .secure schemes =>
      { operation with security := operation.security ++ schemes.map fun scheme => [(scheme, [])] }
  | _ => operation

/-- The operation that the annotations of a routine describe, when it has any. -/
def ofRoutine? (routine : Routine) : Option OperationDraft :=
  if routine.doc.toList.contains '!' then
    match annotations routine.doc with
    | [] => none
    | found =>
        some (found.foldl apply
          { description := prose routine.doc, deprecated := routine.deprecated })
  else none

end OperationDraft

/-- The schema that an annotation line declares. -/
def NamedSchema.ofLine (line : SchemaLine) : NamedSchema :=
  let schema := Schema.ofWord line.type
  let schema :=
    if schema.isReference then schema
    else { schema with
           format := line.format.or schema.format
           example? := line.example?
           values := line.values }
  { name := line.name
    description := line.description
    schema := { schema with description := nonEmptyText? line.description } }

namespace Spec

/-- Adds what one annotation says about the interface as a whole. -/
def apply (spec : Spec) : Annotation → Spec
  | .api version => { spec with version }
  | .info line =>
      { spec with
        info := { spec.info with
                  title := line.title
                  version := line.version
                  description := nonEmptyText? line.description } }
  | .contact line =>
      { spec with
        info := { spec.info with
                  contact := some {
                    name := nonEmptyText? line.name
                    email := nonEmptyText? line.email
                    url := nonEmptyText? line.url } } }
  | .license line =>
      { spec with
        info := { spec.info with license := some ⟨line.name, nonEmptyText? line.url⟩ } }
  | .terms url => { spec with info := { spec.info with termsOfService := some url } }
  | .server line =>
      { spec with servers := spec.servers ++ [⟨line.url, nonEmptyText? line.description⟩] }
  | .tag line => { spec with tags := spec.tags ++ [⟨line.name, nonEmptyText? line.description⟩] }
  | .docs line => { spec with externalDocs := some ⟨line.url, nonEmptyText? line.description⟩ }
  | .link line => spec.addLink ⟨line.label, line.url⟩
  | .security line =>
      { spec with securitySchemes := Keyed.put spec.securitySchemes line.name (.ofLine line) }
  | .scope line =>
      { spec with
        securitySchemes := Keyed.adjust spec.securitySchemes line.scheme
          (·.addScope line.name line.description) }
  | .schema line => spec.addSchema (.ofLine line)
  | _ => spec

/-- Adds what one block of doc comments says about the interface as a whole. -/
def addBlock (spec : Spec) (block : String) : Spec :=
  ((annotations block).filter Annotation.isGlobal).foldl apply spec

/-- Adds the operation of a routine, when it has one. -/
def addRoutine (spec : Spec) (routine : Routine) : Spec :=
  match OperationDraft.ofRoutine? routine with
  | some operation => spec.addOperation operation
  | none => spec

/-- Whether annotations mark a record as a model. -/
def isModel (annotations : List Annotation) : Bool :=
  annotations.any fun annotation =>
    match annotation with
    | .model _ => true
    | _ => false

/-- Adds the schema of a record, when it is a struct that is marked as a model. -/
def addRecord (spec : Spec) (record : RecordDecl) : Spec :=
  let found := annotations record.doc
  if isModel found then
    match record.model? found with
    | some model => spec.addModel model
    | none => spec
  else spec

/-- Adds the declarations of a file: doc comments, then routines, then records. -/
def walk (spec : Spec) (file : Declarations) : Spec :=
  file.records.foldl addRecord (file.routines.foldl addRoutine (file.docBlocks.foldl addBlock spec))

end Spec

end DocApi
