import DocApi.Proofs.Spec.Phases
import DocApi.Spec.Build

/-!
# The schemas of a document

A name stands for the schema that the first line declares for it, in whatever file and block that
line is. A struct gives a name its schema only if no line does, and then the first struct of that
name counts. The order of the names is the order of these first declarations, lines before structs.
-/

namespace DocApi

/-- The schema that an annotation declares, under its name. -/
def Annotation.declaredSchema? : Annotation → Option (String × NamedSchema)
  | .schema line => some (line.name, .ofLine line)
  | _ => none

/-- The schemas that the lines of doc comments declare, each under its name, in order. -/
def Declarations.declaredSchemas (file : Declarations) : Keyed NamedSchema :=
  file.docBlocks.flatMap fun block => (annotations block).filterMap Annotation.declaredSchema?

/-- The schemas among the components of a document. -/
def Document.componentSchemas (document : Document) : Keyed Schema :=
  (document.components.map Components.schemas).getD []

/-- Only annotations about the interface as a whole declare schemas. -/
theorem Annotation.declaredSchema?_of_not_global {note : Annotation}
    (elsewhere : note.isGlobal = false) : note.declaredSchema? = none := by
  cases note with
  | schema line => simp [isGlobal] at elsewhere
  | _ => rfl

namespace Spec

/-! ## Filing in order -/

theorem fileAll_append (start first second : Keyed NamedSchema) :
    fileAll start (first ++ second) = fileAll (fileAll start first) second :=
  List.foldl_append

theorem fileAll_eq (start entries : Keyed NamedSchema) :
    fileAll start entries =
      start ++ (Keyed.firstEntries entries).filter fun entry => !Keyed.holds start entry.1 :=
  Keyed.foldl_putNew start entries

theorem fileAll_nil_left (entries : Keyed NamedSchema) :
    fileAll [] entries = Keyed.firstEntries entries := by
  rw [fileAll_eq, List.nil_append, List.filter_eq_self]
  intro entry _
  rfl

/-- A schema that is refused leaves the filed ones as they are. -/
theorem fileSchema_of_refused {schemas : Keyed NamedSchema} {schema : NamedSchema}
    (refused : (fileSchema schemas schema).1 = false) :
    (fileSchema schemas schema).2 = schemas := by
  rw [fileSchema_eq] at refused ⊢
  have taken : Keyed.holds schemas schema.name = true := by simpa using refused
  simp [Keyed.putNew, taken]

theorem insertSchema_of_refused {spec : Spec} {schema : NamedSchema}
    (refused : (spec.insertSchema schema).1 = false) : (spec.insertSchema schema).2 = spec := by
  change { spec with schemas := (fileSchema spec.schemas schema).2 } = spec
  rw [fileSchema_of_refused refused]

theorem insertModel_of_refused {spec : Spec} {model : NamedSchema}
    (refused : (spec.insertModel model).1 = false) : (spec.insertModel model).2 = spec := by
  change { spec with models := (fileSchema spec.models model).2 } = spec
  rw [fileSchema_of_refused refused]

/-! ## Declared schemas along a walk -/

theorem apply_schemas (spec : Spec) (note : Annotation) :
    (spec.apply note).schemas =
      fileAll spec.schemas note.declaredSchema?.toList := by
  cases note with
  | schema line =>
      rw [apply, addSchema_eq]
      rfl
  | _ => rfl

theorem foldl_apply_schemas (spec : Spec) (notes : List Annotation) :
    ((notes.filter Annotation.isGlobal).foldl apply spec).schemas =
      fileAll spec.schemas (notes.filterMap Annotation.declaredSchema?) := by
  induction notes generalizing spec with
  | nil => rfl
  | cons note notes induction =>
      by_cases global : note.isGlobal = true
      · rw [List.filter_cons_of_pos global, List.foldl_cons, induction, apply_schemas,
          ← fileAll_append]
        cases declared : note.declaredSchema? <;> simp [declared]
      · have nothing : note.declaredSchema? = none :=
          Annotation.declaredSchema?_of_not_global (by simpa using global)
        rw [List.filter_cons_of_neg global, induction, List.filterMap_cons_none nothing]

theorem foldl_addBlock_schemas (spec : Spec) (blocks : List String) :
    (blocks.foldl addBlock spec).schemas =
      fileAll spec.schemas
        (blocks.flatMap fun block =>
          (annotations block).filterMap Annotation.declaredSchema?) := by
  induction blocks generalizing spec with
  | nil => rfl
  | cons block blocks induction =>
      rw [List.foldl_cons, induction, addBlock, foldl_apply_schemas, ← fileAll_append,
        List.flatMap_cons]

/-- A walk files the schemas that the lines of the file declare. -/
theorem walk_schemas (spec : Spec) (file : Declarations) :
    (spec.walk file).schemas = fileAll spec.schemas file.declaredSchemas := by
  rw [walk_eq]
  exact foldl_addBlock_schemas spec file.docBlocks

/-- A walk files the models of the structs of the file. -/
theorem walk_models (spec : Spec) (file : Declarations) :
    (spec.walk file).models = fileAll spec.models file.models := by
  rw [walk_eq]
  rfl

theorem foldl_walk_schemas (spec : Spec) (files : List Declarations) :
    (files.foldl walk spec).schemas =
      fileAll spec.schemas (files.flatMap Declarations.declaredSchemas) := by
  induction files generalizing spec with
  | nil => rfl
  | cons file files induction =>
      rw [List.foldl_cons, induction, walk_schemas, ← fileAll_append, List.flatMap_cons]

theorem foldl_walk_models (spec : Spec) (files : List Declarations) :
    (files.foldl walk spec).models = fileAll spec.models (files.flatMap Declarations.models) := by
  induction files generalizing spec with
  | nil => rfl
  | cons file files induction =>
      rw [List.foldl_cons, induction, walk_models, ← fileAll_append, List.flatMap_cons]

/-! ## The built components -/

theorem build_componentSchemas (spec : Spec) :
    spec.build.componentSchemas = Keyed.mapValues NamedSchema.schema spec.mergedSchemas := by
  simp only [Document.componentSchemas, build, buildComponents]
  split
  · rename_i empty
    have nothing : Keyed.mapValues NamedSchema.schema spec.mergedSchemas = [] := by
      simpa using (Bool.and_eq_true_iff.1 empty).1
    rw [nothing]
    rfl
  · rfl

theorem mergedSchemas_eq (spec : Spec) :
    spec.mergedSchemas = fileAll spec.schemas spec.models := rfl

/-- There are no components when nothing would be listed in them. -/
theorem build_components_eq_none_iff (spec : Spec) :
    spec.build.components = none ↔
      spec.schemas = [] ∧ spec.models = [] ∧ spec.securitySchemes = [] := by
  have merged : spec.mergedSchemas = [] ↔ spec.schemas = [] ∧ spec.models = [] := by
    rw [mergedSchemas_eq, fileAll_eq]
    constructor
    · intro empty
      obtain ⟨noSchemas, noModels⟩ := List.append_eq_nil_iff.1 empty
      rw [noSchemas] at noModels
      have unfiltered : Keyed.firstEntries spec.models = [] := by
        simpa [Keyed.holds] using noModels
      exact ⟨noSchemas, (Keyed.firstEntries_eq_nil_iff _).1 unfiltered⟩
    · rintro ⟨noSchemas, noModels⟩
      simp [noSchemas, noModels, Keyed.firstEntries]
  rw [← and_assoc, ← merged]
  simp [build, buildComponents, Keyed.mapValues]

/-- What a run over files leaves behind: of the declared schemas, and of the models, the first of
each name. -/
theorem foldl_walk_empty (files : List Declarations) :
    (files.foldl walk {}).schemas =
        Keyed.firstEntries (files.flatMap Declarations.declaredSchemas) ∧
      (files.foldl walk {}).models =
        Keyed.firstEntries (files.flatMap Declarations.models) := by
  rw [foldl_walk_schemas, foldl_walk_models]
  exact ⟨fileAll_nil_left _, fileAll_nil_left _⟩

theorem foldl_walk_mergedSchemas (files : List Declarations) :
    (files.foldl walk {}).mergedSchemas =
      Keyed.firstEntries (files.flatMap Declarations.declaredSchemas) ++
        (Keyed.firstEntries (files.flatMap Declarations.models)).filter fun entry =>
          !Keyed.holds (files.flatMap Declarations.declaredSchemas) entry.1 := by
  obtain ⟨schemas, models⟩ := foldl_walk_empty files
  rw [mergedSchemas_eq, schemas, models, fileAll_eq,
    Keyed.firstEntries_of_nodup (Keyed.nodup_keys_firstEntries _)]
  congr 1
  refine List.filter_congr fun entry _ => ?_
  rw [Bool.eq_iff_iff]
  simp

end Spec

/-! ## Names -/

/-- A declared schema stands under its own name. -/
theorem Declarations.name_of_mem_declaredSchemas {file : Declarations}
    {entry : String × NamedSchema} (member : entry ∈ file.declaredSchemas) :
    entry.1 = entry.2.name := by
  rw [declaredSchemas, List.mem_flatMap] at member
  obtain ⟨block, _, member⟩ := member
  obtain ⟨note, _, declared⟩ := List.mem_filterMap.1 member
  cases note with
  | schema line =>
      obtain rfl := Option.some.inj declared
      rfl
  | _ => cases declared

/-- A model stands under its own name. -/
theorem Declarations.name_of_mem_models {file : Declarations} {entry : String × NamedSchema}
    (member : entry ∈ file.models) : entry.1 = entry.2.name := by
  obtain ⟨record, _, added⟩ := List.mem_filterMap.1 member
  obtain ⟨model, _, rfl⟩ := Option.map_eq_some_iff.1 added
  rfl

namespace Spec

theorem name_of_mem_filed {files : List Declarations} {entry : String × NamedSchema}
    (member : entry ∈ (files.foldl walk {}).schemas ++ (files.foldl walk {}).models) :
    entry.1 = entry.2.name := by
  obtain ⟨schemas, models⟩ := foldl_walk_empty files
  rw [schemas, models, List.mem_append] at member
  rcases member with member | member
  · obtain ⟨file, _, member⟩ :=
      List.mem_flatMap.1 (Keyed.mem_of_mem_firstEntries member)
    exact Declarations.name_of_mem_declaredSchemas member
  · obtain ⟨file, _, member⟩ :=
      List.mem_flatMap.1 (Keyed.mem_of_mem_firstEntries member)
    exact Declarations.name_of_mem_models member

/-- The schemas of the document of files are the first declared schema of each name, in the order
of the lines, and then the first model of each other name, in the order of the structs. No name
occurs twice, every schema is filed under its own name, a refused schema changes nothing, and there
are components unless there is no schema and no security scheme. -/
theorem components_schemas_first_wins (files : List Declarations) :
    let spec := files.foldl walk {}
    let declared := files.flatMap Declarations.declaredSchemas
    let models := files.flatMap Declarations.models
    spec.build.componentSchemas =
        Keyed.mapValues NamedSchema.schema
          (Keyed.firstEntries declared ++
            (Keyed.firstEntries models).filter fun entry => !Keyed.holds declared entry.1) ∧
      (∀ name : String,
        Keyed.at? spec.build.componentSchemas name =
          ((Keyed.at? declared name).or (Keyed.at? models name)).map NamedSchema.schema) ∧
      (Keyed.keys spec.build.componentSchemas).Nodup ∧
      (∀ entry ∈ spec.schemas ++ spec.models, entry.1 = entry.2.name) ∧
      (∀ (state : Spec) (schema : NamedSchema),
        ((state.insertSchema schema).1 = false → (state.insertSchema schema).2 = state) ∧
          ((state.insertModel schema).1 = false → (state.insertModel schema).2 = state)) ∧
      (spec.build.components = none ↔
        declared = [] ∧ models = [] ∧ spec.securitySchemes = []) := by
  intro spec declared models
  have listed := build_componentSchemas spec
  rw [foldl_walk_mergedSchemas files, ← Keyed.firstEntries_append] at listed
  refine ⟨?_, ?_, ?_, ?_, ?_, ?_⟩
  · rw [listed, Keyed.firstEntries_append]
  · intro name
    rw [listed, Keyed.at?_mapValues, Keyed.at?_firstEntries, Keyed.at?_append]
  · rw [listed, Keyed.keys_mapValues]
    exact Keyed.nodup_keys_firstEntries _
  · intro entry member
    exact name_of_mem_filed member
  · intro state schema
    exact ⟨insertSchema_of_refused, insertModel_of_refused⟩
  · obtain ⟨schemas, filed⟩ := foldl_walk_empty files
    rw [build_components_eq_none_iff, schemas, filed, Keyed.firstEntries_eq_nil_iff,
      Keyed.firstEntries_eq_nil_iff]

/-! ## Names that are taken -/

/-- Declares the schemas `Pet` and `Tag`, and has a struct `Pet`. -/
def linesFile : Declarations where
  docBlocks := ["!schema Pet boolean\n!schema Tag string", "!model"]
  records := [⟨"Pet", "!model", {}, some []⟩]

/-- Declares the schema `Pet` again, and has two structs `Shop`. -/
def structsFile : Declarations where
  docBlocks := ["!model Small", "!schema Pet string", "!model Large"]
  records := [⟨"Shop", "!model Small", {}, some []⟩, ⟨"Shop", "!model Large", {}, some []⟩]

/-- A schema of a base type under a name. -/
def namedType (name type : String) : NamedSchema := { name, schema := .typed type none }

theorem declaredSchemas_files :
    [linesFile, structsFile].flatMap Declarations.declaredSchemas =
      [("Pet", namedType "Pet" "boolean"), ("Tag", namedType "Tag" "string"),
        ("Pet", namedType "Pet" "string")] := by
  with_unfolding_all rfl

/-- A struct without fields under a name. -/
def emptyStruct (name description : String) : NamedSchema where
  name
  description
  schema := { Schema.object with description := nonEmptyText? description }

theorem models_files :
    [linesFile, structsFile].flatMap Declarations.models =
      [("Pet", emptyStruct "Pet" ""), ("Shop", emptyStruct "Shop" "Small"),
        ("Shop", emptyStruct "Shop" "Large")] := by
  with_unfolding_all rfl

/-- `Pet` is what its first line says, not its second line or its struct, and `Shop` is the first of
its structs. Neither name can be filed once more. -/
theorem componentSchemas_of_taken_names :
    let spec := [linesFile, structsFile].foldl walk {}
    spec.build.componentSchemas =
        [("Pet", .typed "boolean" none), ("Tag", .typed "string" none),
          ("Shop", { Schema.object with description := some "Small" })] ∧
      Keyed.at? spec.build.componentSchemas "Cat" = none ∧
      (Keyed.keys spec.build.componentSchemas).Nodup ∧
      (spec.insertSchema (namedType "Pet" "string")).2 = spec ∧
      (spec.insertModel (emptyStruct "Shop" "Large")).2 = spec ∧
      spec.build.components ≠ none := by
  intro spec
  obtain ⟨listed, found, distinct, -, refused, empty⟩ :=
    components_schemas_first_wins [linesFile, structsFile]
  obtain ⟨schemas, models⟩ := foldl_walk_empty [linesFile, structsFile]
  rw [declaredSchemas_files] at listed found schemas empty
  rw [models_files] at listed found models
  refine ⟨listed, found "Cat", distinct, (refused spec _).1 ?_, (refused spec _).2 ?_, ?_⟩
  · rw [insertSchema, schemas]
    rfl
  · rw [insertModel, models]
    rfl
  · intro nothing
    cases (empty.1 nothing).1

end Spec
end DocApi
