import DocApi.Project.Generate
import DocApi.Proofs.Schema.Types
import DocApi.Proofs.Spec.Components
import DocApi.Proofs.Spec.Drafts
import DocApi.Proofs.Spec.Paths

/-!
# The schema nodes of a document

Schemas reach a document by parameters, bodies and responses, by lines of their own, and as models,
whose properties any number of lines may refine. Every node of each of them is well-formed.
-/

namespace DocApi

/-! ## Where schemas stand -/

/-- A schema stands in an operation, outside of other schemas. -/
inductive Operation.Holds (operation : Operation) : Schema → Prop
  | parameter {parameter : Parameter} :
      parameter ∈ operation.parameters → Holds operation parameter.schema
  | body {body : RequestBody} {format : String} {media : MediaType} :
      operation.requestBody = some body → (format, media) ∈ body.content →
        Holds operation media.schema
  | response {status : String} {response : Response} {content : Keyed MediaType} {format : String}
      {media : MediaType} :
      (status, response) ∈ operation.responses → response.content = some content →
        (format, media) ∈ content → Holds operation media.schema

/-- A schema stands in a document, outside of other schemas. -/
inductive Document.Holds (document : Document) : Schema → Prop
  | component {components : Components} {name : String} {schema : Schema} :
      document.components = some components → (name, schema) ∈ components.schemas →
        Holds document schema
  | operation {path : String} {item : PathItem} {method : Method} {operation : Operation}
      {schema : Schema} :
      (path, item) ∈ document.paths → item.operation method = some operation →
        operation.Holds schema → Holds document schema

/-! ## Lines -/

theorem Parameter.wellFormed_ofLine (line : ParameterLine) :
    (Parameter.ofLine line).schema.WellFormed := by
  have formed := Schema.wellFormed_ofWord line.type
  simp only [Parameter.ofLine]
  split
  · exact formed
  · rename_i inline
    exact formed.decorate (by simpa using inline) _ _ _

theorem NamedSchema.wellFormed_ofLine (line : SchemaLine) :
    (NamedSchema.ofLine line).schema.WellFormed := by
  have formed := Schema.wellFormed_ofWord line.type
  simp only [NamedSchema.ofLine]
  apply Schema.WellFormed.describe
  split
  · exact formed
  · rename_i inline
    exact formed.decorate (by simpa using inline) _ _ _

theorem wellFormed_of_mem_jsonContent {schema : Schema} (formed : schema.WellFormed)
    {entry : String × MediaType} (member : entry ∈ jsonContent schema) :
    entry.2.schema.WellFormed := by
  obtain rfl := List.mem_singleton.1 member
  exact formed

/-! ## Operations -/

/-- Whether all schemas of a draft are well-formed. -/
structure OperationDraft.WellFormed (draft : OperationDraft) : Prop where
  parameters : ∀ parameter ∈ draft.parameters, parameter.schema.WellFormed
  body : ∀ body, draft.requestBody = some body → ∀ entry ∈ body.content, entry.2.schema.WellFormed
  responses : ∀ response ∈ draft.responses, ∀ content, response.2.content = some content →
    ∀ entry ∈ content, entry.2.schema.WellFormed

theorem Response.wellFormed_ofLine (line : ResponseLine) {content : Keyed MediaType}
    (found : (Response.ofLine line).content = some content) :
    ∀ entry ∈ content, entry.2.schema.WellFormed := by
  intro entry member
  simp only [Response.ofLine] at found
  split at found
  · obtain rfl := Option.some.inj found
    exact wellFormed_of_mem_jsonContent (Schema.wellFormed_ofToken line.schema) member
  · cases found

namespace OperationDraft

/-- One annotation keeps a draft well-formed. -/
theorem WellFormed.apply {draft : OperationDraft} (formed : draft.WellFormed) (note : Annotation) :
    (draft.apply note).WellFormed := by
  cases note with
  | parameter line =>
      refine ⟨?_, formed.body, formed.responses⟩
      intro parameter member
      rcases List.mem_append.1 member with member | member
      · exact formed.parameters parameter member
      · obtain rfl := List.mem_singleton.1 member
        exact Parameter.wellFormed_ofLine line
  | body line =>
      refine ⟨formed.parameters, ?_, formed.responses⟩
      intro body found entry member
      obtain rfl := Option.some.inj found
      exact wellFormed_of_mem_jsonContent (Schema.wellFormed_ofToken line.schema) member
  | response line =>
      refine ⟨formed.parameters, formed.body, ?_⟩
      intro response member content found
      rcases Keyed.mem_put member with member | rfl
      · exact formed.responses response member content found
      · exact Response.wellFormed_ofLine line found
  | _ => exact ⟨formed.parameters, formed.body, formed.responses⟩

/-- The draft of a routine is well-formed. -/
theorem wellFormed_of_ofRoutine? {routine : Routine} {draft : OperationDraft}
    (found : ofRoutine? routine = some draft) : draft.WellFormed := by
  rw [eq_foldl_of_ofRoutine? found]
  refine List.foldlRecOn _ _ ⟨?_, ?_, ?_⟩ fun draft formed note _ => formed.apply note
  all_goals simp

/-- Only well-formed schemas stand in the operation of a well-formed draft. -/
theorem WellFormed.of_holds {draft : OperationDraft} (formed : draft.WellFormed) {schema : Schema}
    (held : draft.toOperation.Holds schema) : schema.WellFormed := by
  cases held with
  | parameter member => exact formed.parameters _ member
  | body found member => exact formed.body _ found _ member
  | response member found inContent => exact formed.responses _ member _ found _ inContent

end OperationDraft

/-! ## Models -/

namespace Schema

theorem WellFormed.retype {schema : Schema} (formed : schema.WellFormed) {type : TypeExpr}
    (named : type.WellNamed) : (schema.retype type).WellFormed := by
  rw [Schema.retype]
  split
  · exact formed
  · exact (wellFormed_ofType named).describe schema.description

theorem WellFormed.exemplify {schema : Schema} (formed : schema.WellFormed)
    (example? : Option Json) (values : Option (List Json)) :
    (schema.exemplify example? values).WellFormed := by
  rw [Schema.exemplify]
  split
  · exact formed
  · rename_i inline
    exact formed.decorate (by simpa using inline) _ _ _

/-- A line may turn a property into a reference or back: what a reference cannot have goes with
the old type. -/
theorem WellFormed.refine {schema : Schema} (formed : schema.WellFormed) (line : FieldLine) :
    (schema.refine line).WellFormed := by
  simp only [Schema.refine]
  apply WellFormed.exemplify
  apply WellFormed.describe
  split
  · exact formed.retype (TypeExpr.wellNamed_ofWord _)
  · exact formed

end Schema

namespace ModelDraft

/-- Whether the properties of a draft are well-formed. -/
def WellFormed (draft : ModelDraft) : Prop := ∀ entry ∈ draft.properties, entry.2.WellFormed

theorem WellFormed.addProperty {draft : ModelDraft} (formed : draft.WellFormed) (name : String)
    {field : FieldDecl} (named : field.type.WellNamed) :
    (draft.addProperty name field).WellFormed := by
  intro entry member
  rw [properties_addProperty] at member
  rcases Keyed.mem_put member with kept | rfl
  · exact formed entry kept
  · exact (Schema.wellFormed_ofType named).describe _

theorem WellFormed.refine {draft : ModelDraft} (formed : draft.WellFormed) (name : String)
    (line : FieldLine) : (draft.refine name line).WellFormed := by
  intro entry member
  rw [properties_refine] at member
  rcases Keyed.mem_adjust member with kept | ⟨old, found, rfl⟩
  · exact formed entry kept
  · exact (formed _ found).refine line

theorem WellFormed.addField {draft : ModelDraft} (formed : draft.WellFormed)
    (record : Source.Serialization) {field : FieldDecl} (named : field.type.WellNamed) :
    (draft.addField record field).WellFormed := by
  rw [ModelDraft.addField]
  split
  · exact formed
  · exact List.foldlRecOn _ _ (formed.addProperty _ named)
      fun draft formed line _ => formed.refine _ line

end ModelDraft

/-- The schema of a struct is well-formed under any annotations. -/
theorem RecordDecl.wellFormed_of_model? {record : RecordDecl} {notes : List Annotation}
    {model : NamedSchema} (found : record.model? notes = some model)
    (named : ∀ fields, record.fields = some fields → ∀ field ∈ fields, field.type.WellNamed) :
    model.schema.WellFormed := by
  obtain ⟨fields, declared, rfl⟩ := Option.map_eq_some_iff.1 found
  have drafted : (fields.foldl (ModelDraft.addField record.serialization) {}).WellFormed :=
    List.foldlRecOn _ _ (by simp [ModelDraft.WellFormed])
      fun draft formed field member => formed.addField _ (named fields declared field member)
  apply Schema.wellFormed_object
  exact List.foldlRecOn _ _ drafted fun draft formed line _ => formed.refine _ line

/-! ## Runs -/

namespace Spec

/-- Every operation of a run is well-formed. -/
theorem wellFormed_of_mem_operations {files : List Declarations} {draft : OperationDraft}
    (member : draft ∈ (files.foldl walk {}).operations) : draft.WellFormed := by
  obtain ⟨routine, found, -⟩ := exists_routine_of_mem_operations member
  exact OperationDraft.wellFormed_of_ofRoutine? found

theorem wellFormed_of_mem_declaredSchemas {file : Declarations} {entry : String × NamedSchema}
    (member : entry ∈ file.declaredSchemas) : entry.2.schema.WellFormed := by
  obtain ⟨block, _, inBlock⟩ := List.mem_flatMap.1 member
  obtain ⟨note, _, declared⟩ := List.mem_filterMap.1 inBlock
  cases note with
  | schema line =>
      obtain rfl := Option.some.inj declared
      exact NamedSchema.wellFormed_ofLine line
  | _ => cases declared

theorem wellFormed_of_mem_models {file : Declarations} (named : file.WellNamed)
    {entry : String × NamedSchema} (member : entry ∈ file.models) :
    entry.2.schema.WellFormed := by
  obtain ⟨record, inFile, added⟩ := List.mem_filterMap.1 member
  obtain ⟨model, marked, rfl⟩ := Option.map_eq_some_iff.1 added
  rw [RecordDecl.markedModel?] at marked
  split at marked
  · exact RecordDecl.wellFormed_of_model? marked (named record inFile)
  · cases marked

/-- Every component of a run over well-named files is well-formed. -/
theorem wellFormed_of_mem_componentSchemas {files : List Declarations}
    (named : ∀ file ∈ files, file.WellNamed) {entry : String × Schema}
    (member : entry ∈ (files.foldl walk {}).build.componentSchemas) : entry.2.WellFormed := by
  rw [build_componentSchemas, foldl_walk_mergedSchemas, ← Keyed.firstEntries_append,
    Keyed.mapValues, List.mem_map] at member
  obtain ⟨filed, first, rfl⟩ := member
  rcases List.mem_append.1 (Keyed.mem_of_mem_firstEntries first) with declared | model
  · obtain ⟨file, _, inFile⟩ := List.mem_flatMap.1 declared
    exact wellFormed_of_mem_declaredSchemas inFile
  · obtain ⟨file, walked, inFile⟩ := List.mem_flatMap.1 model
    exact wellFormed_of_mem_models (named file walked) inFile

/-- An operation of the built paths comes from a draft. -/
theorem exists_draft_of_operation {drafts : List OperationDraft} {path : String} {item : PathItem}
    {method : Method} {operation : Operation} (member : (path, item) ∈ buildPaths drafts)
    (found : item.operation method = some operation) :
    ∃ draft ∈ drafts, draft.toOperation = operation := by
  have filed : Keyed.at? (buildPaths drafts) path = some item :=
    Keyed.at?_eq_some_of_mem (nodup_keys_buildPaths drafts) member
  have last := operationAt_buildPaths drafts path method
  rw [operationAt, filed, Option.bind_some, found] at last
  obtain ⟨draft, chosen, converted⟩ := Option.map_eq_some_iff.1 last.symm
  have member := List.mem_of_getLast? chosen
  exact ⟨draft, (List.mem_filter.1 member).1, converted⟩

/-- Every schema that stands in the document of well-named files is well-formed. -/
theorem wellFormed_of_holds {files : List Declarations} (named : ∀ file ∈ files, file.WellNamed)
    {schema : Schema} (held : (files.foldl walk {}).build.Holds schema) : schema.WellFormed := by
  cases held with
  | @component components name _ found member =>
      have listed : (name, schema) ∈ (files.foldl walk {}).build.componentSchemas := by
        rw [Document.componentSchemas, found]
        exact member
      exact wellFormed_of_mem_componentSchemas named listed
  | operation member found inside =>
      obtain ⟨draft, drafted, rfl⟩ := exists_draft_of_operation member found
      exact (wellFormed_of_mem_operations drafted).of_holds inside

/-- In the document of source files, at any depth of any schema: a reference is the address of a
name and adds at most a description, a nullable node has a type, and what stands for items or for
the values of a map is never the empty schema. -/
theorem schema_nodes_of_files (files : List Source.File) {root node : Schema}
    (held : (Spec.ofFiles files).build.Holds root) (within : node.Within root) :
    (∀ address, node.reference = some address →
      (∃ name, name ≠ "" ∧ address = "#/components/schemas/" ++ name) ∧
        node = { reference := some address, description := node.description }) ∧
    (node.nullable = true → ∃ type, node.type = some type) ∧
    ∀ inner, node.items = some inner ∨ node.additional = some inner → inner ≠ {} := by
  have named : ∀ file ∈ files.map Declarations.ofFile, file.WellNamed := by
    intro file member
    obtain ⟨source, _, rfl⟩ := List.mem_map.1 member
    exact Declarations.wellNamed_ofFile source
  have formed := wellFormed_of_holds named held node within
  refine ⟨formed.reference, formed.nullable, ?_⟩
  rintro inner (found | found)
  · exact (Schema.isEmpty_eq_false_iff inner).1 (formed.items inner found)
  · exact (Schema.isEmpty_eq_false_iff inner).1 (formed.additional inner found)

theorem doc_ne_empty : "doc" ≠ "" := by decide

/-- A file whose one doc comment declares the schema `Pets`. -/
def petsFile : Source.File where
  attributes := [⟨true, some ⟨"doc", false, doc_ne_empty⟩, .text "!schema Pets ?[]Pet"⟩]
  inside := []
  items := []

/-- The schema `Pets`: an array of references that may be missing. -/
def petsSchema : Schema := { Schema.array (some (.ref "Pet")) with nullable := true }

/-- The array has a type, its items are not empty, and they refer to a name. -/
theorem schema_nodes_of_petsFile :
    (Spec.ofFiles [petsFile]).build.Holds petsSchema ∧
      (Schema.ref "Pet").Within petsSchema ∧
      petsSchema.nullable = true ∧
      (∃ type, petsSchema.type = some type) ∧
      Schema.ref "Pet" ≠ {} ∧
      ∃ name, name ≠ "" ∧ "#/components/schemas/Pet" = "#/components/schemas/" ++ name := by
  have text : Source.docText true petsFile.attributes = "!schema Pets ?[]Pet" := rfl
  have filled : (trim "!schema Pets ?[]Pet".toList).isEmpty = false := by decide
  have declared : Declarations.ofFile petsFile = { docBlocks := ["!schema Pets ?[]Pet"] } := by
    rw [Declarations.ofFile, Declarations.ofDoc, text, filled]
    rfl
  have read : annotations "!schema Pets ?[]Pet" =
      [.schema ⟨"Pets", "?[]Pet", "", none, none, none⟩] := by with_unfolding_all rfl
  have word : Schema.ofWord "?[]Pet" = petsSchema := by with_unfolding_all rfl
  have line : NamedSchema.ofLine ⟨"Pets", "?[]Pet", "", none, none, none⟩ =
      { name := "Pets", schema := petsSchema } := by
    rw [NamedSchema.ofLine, word]
    rfl
  have added : addBlock {} "!schema Pets ?[]Pet" =
      addSchema {} { name := "Pets", schema := petsSchema } := by
    rw [addBlock, read, ← line]
    rfl
  have components : (Spec.ofFiles [petsFile]).build.components =
      some { schemas := [("Pets", petsSchema)] } := by
    rw [Spec.ofFiles, List.map_singleton, declared, List.foldl_cons, List.foldl_nil, walk,
      List.foldl_cons, added]
    rfl
  have held : (Spec.ofFiles [petsFile]).build.Holds petsSchema :=
    .component components List.mem_cons_self
  have within : (Schema.ref "Pet").Within petsSchema := .items rfl .self
  obtain ⟨_, typed, items⟩ := schema_nodes_of_files [petsFile] held .self
  obtain ⟨reference, _, _⟩ := schema_nodes_of_files [petsFile] held within
  exact ⟨held, within, rfl, typed rfl, items _ (Or.inl rfl), (reference _ rfl).1⟩

end Spec
end DocApi
