import DocApi.Annotation.Line
import DocApi.Schema.Resolve
import DocApi.Source.Declarations
import DocApi.Spec.Basic

/-!
# Models

The schema of a struct has a property for each field that is exchanged, in the order of the
fields. Annotation lines on the field, and then those on the struct, refine the property.
-/

namespace DocApi

/-- The annotations that describe a field. -/
def fieldLines (annotations : List Annotation) : List FieldLine :=
  annotations.filterMap fun annotation =>
    match annotation with
    | .field line => some line
    | _ => none

namespace Schema

/-- Replaces what a property says by the type of an annotation, and keeps its description. A type
that cannot be read replaces nothing. -/
def retype (schema : Schema) (type : TypeExpr) : Schema :=
  if type = .unsupported then schema
  else { ofType type with description := schema.description }

/-- Sets example and values, which a reference cannot have. -/
def exemplify (schema : Schema) (example? : Option Json) (values : Option (List Json)) : Schema :=
  if schema.isReference then schema
  else { schema with example? := example?.or schema.example?, values := values.or schema.values }

/-- Refines a property by an annotation line. -/
def refine (schema : Schema) (line : FieldLine) : Schema :=
  let schema := match line.type with
    | some type => schema.retype (.ofWord type.toList)
    | none => schema
  let schema :=
    { schema with description := (nonEmptyText? line.description).or schema.description }
  schema.exemplify line.example? line.values

end Schema

/-- The properties of a model as far as its fields are known. -/
structure ModelDraft where
  properties : Keyed Schema := []
  required : List String := []
  examples : Keyed Json := []

namespace ModelDraft

/-- Makes a property required, unless it is so already. -/
def markRequired (draft : ModelDraft) (name : String) : ModelDraft :=
  if draft.required.contains name then draft
  else { draft with required := draft.required ++ [name] }

/-- The property of a field as its declaration describes it. -/
def property (field : FieldDecl) : Schema :=
  let schema := Schema.ofType field.type
  { schema with description := schema.description.or (nonEmptyText? (prose field.doc)) }

/-- Adds the property of a field. -/
def addProperty (draft : ModelDraft) (name : String) (field : FieldDecl) : ModelDraft :=
  let draft := if field.serialization.omitEmpty then draft else draft.markRequired name
  { draft with properties := Keyed.put draft.properties name (property field) }

/-- Refines the property `name`, when there is one, by an annotation line. -/
def refine (draft : ModelDraft) (name : String) (line : FieldLine) : ModelDraft :=
  if Keyed.holds draft.properties name then
    let draft :=
      { draft with
        properties := Keyed.adjust draft.properties name (·.refine line)
        examples := match line.example? with
          | some value => Keyed.put draft.examples name value
          | none => draft.examples }
    if line.required then draft.markRequired name else draft
  else draft

/-- Adds a field with its own annotation lines, unless it is left out. -/
def addField (record : Source.Serialization) (draft : ModelDraft) (field : FieldDecl) :
    ModelDraft :=
  match field.serializedName record with
  | none => draft
  | some name =>
      (fieldLines (annotations field.doc)).foldl (fun draft line => draft.refine name line)
        (draft.addProperty name field)

end ModelDraft

/-- The description of a model: the first that its annotations give, or else its prose. -/
def modelDescription (doc : String) (annotations : List Annotation) : String :=
  (annotations.findSome? fun annotation =>
    match annotation with
    | .model description => nonEmptyText? description
    | _ => none).getD (prose doc)

/-- The schema of a record under the given annotations. Only structs have one. -/
def RecordDecl.model? (record : RecordDecl) (annotations : List Annotation) : Option NamedSchema :=
  record.fields.map fun fields =>
    let draft := fields.foldl (ModelDraft.addField record.serialization) {}
    let draft :=
      (fieldLines annotations).foldl (fun draft line => draft.refine line.name line) draft
    let description := modelDescription record.doc annotations
    { name := record.name
      description
      schema := {
        type := some "object"
        description := nonEmptyText? description
        properties := some draft.properties
        required := draft.required }
      examples := draft.examples }

end DocApi
