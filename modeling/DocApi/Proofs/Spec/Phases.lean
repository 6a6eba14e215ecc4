import DocApi.Proofs.Keyed
import DocApi.Spec.Walk

/-!
# The three phases of a walk

The doc comments of a file, its routines and its records are taken into a specification one phase
after the other. Routines write the operations only, records write the models only, and doc
comments neither read nor write these two. A walk is therefore three independent runs, and files
can be merged: walking them one by one is walking the one file that lists all their declarations.
-/

namespace DocApi

/-! ## What one routine or record adds -/

/-- The operation that a routine adds: it must have a method and a path. -/
def Routine.routedOperation? (routine : Routine) : Option OperationDraft :=
  (OperationDraft.ofRoutine? routine).filter OperationDraft.isRouted

/-- The model that a record adds: it must be a struct that is marked as a model. -/
def RecordDecl.markedModel? (record : RecordDecl) : Option NamedSchema :=
  if Spec.isModel (annotations record.doc) then record.model? (annotations record.doc) else none

/-- A schema as an entry under its own name. -/
def NamedSchema.entry (schema : NamedSchema) : String × NamedSchema := (schema.name, schema)

namespace Declarations

/-- The operations that the routines of a file add, in order. -/
def operations (file : Declarations) : List OperationDraft :=
  file.routines.filterMap Routine.routedOperation?

/-- The models that the records of a file add, each under its name, in order. -/
def models (file : Declarations) : Keyed NamedSchema :=
  file.records.filterMap fun record => record.markedModel?.map NamedSchema.entry

/-- What the doc comments of a file say about the interface as a whole, in order. -/
def globalNotes (file : Declarations) : List Annotation :=
  file.docBlocks.flatMap fun block => (annotations block).filter Annotation.isGlobal

/-- The one file that lists the declarations of all files, in order. -/
def merged (files : List Declarations) : Declarations where
  docBlocks := files.flatMap docBlocks
  routines := files.flatMap routines
  records := files.flatMap records

@[simp] theorem append_eq (first second : Declarations) :
    first ++ second =
      { docBlocks := first.docBlocks ++ second.docBlocks
        routines := first.routines ++ second.routines
        records := first.records ++ second.records } := rfl

theorem merged_cons (file : Declarations) (files : List Declarations) :
    merged (file :: files) = file ++ merged files := rfl

end Declarations

/-- The draft of a routine is a run over the annotations of its doc comment. -/
theorem OperationDraft.eq_foldl_of_ofRoutine? {routine : Routine} {draft : OperationDraft}
    (found : ofRoutine? routine = some draft) :
    draft = (annotations routine.doc).foldl OperationDraft.apply
      { description := prose routine.doc, deprecated := routine.deprecated } := by
  unfold ofRoutine? at found
  split at found
  · split at found
    · cases found
    · exact (Option.some.inj found).symm
  · cases found

namespace Spec

/-! ## Filing schemas -/

/-- Filing a schema is filing it under its name where the name is free. -/
theorem fileSchema_eq (schemas : Keyed NamedSchema) (schema : NamedSchema) :
    fileSchema schemas schema =
      (!Keyed.holds schemas schema.name, Keyed.putNew schemas schema.name schema) := by
  rw [fileSchema, Keyed.putNew]
  by_cases taken : Keyed.holds schemas schema.name = true
  · simp [taken]
  · have fresh : schema.name ∉ Keyed.keys schemas := by simpa using taken
    simp [taken, Keyed.put_of_not_mem schema fresh]

theorem addSchema_eq (spec : Spec) (schema : NamedSchema) :
    spec.addSchema schema =
      { spec with schemas := Keyed.putNew spec.schemas schema.name schema } := by
  rw [addSchema, insertSchema, fileSchema_eq]

theorem addModel_eq (spec : Spec) (model : NamedSchema) :
    spec.addModel model = { spec with models := Keyed.putNew spec.models model.name model } := by
  rw [addModel, insertModel, fileSchema_eq]

/-- Files the entries one by one, each where its key is free. -/
def fileAll (start entries : Keyed NamedSchema) : Keyed NamedSchema :=
  entries.foldl (fun filed entry => Keyed.putNew filed entry.1 entry.2) start

/-! ## Routines and records -/

/-- A routine writes the operations only. -/
theorem addRoutine_eq (spec : Spec) (routine : Routine) :
    spec.addRoutine routine =
      { spec with operations := spec.operations ++ routine.routedOperation?.toList } := by
  rw [addRoutine, Routine.routedOperation?]
  cases OperationDraft.ofRoutine? routine with
  | none => simp
  | some operation =>
      by_cases routed : operation.isRouted = true <;>
        simp [addOperation, Option.filter, routed]

/-- A record writes the models only. -/
theorem addRecord_eq (spec : Spec) (record : RecordDecl) :
    spec.addRecord record =
      { spec with
        models := fileAll spec.models (record.markedModel?.map NamedSchema.entry).toList } := by
  simp only [addRecord, RecordDecl.markedModel?]
  by_cases marked : isModel (annotations record.doc) = true
  · rw [if_pos marked, if_pos marked]
    cases record.model? (annotations record.doc) with
    | none => simp [fileAll]
    | some model => simp [fileAll, addModel_eq, NamedSchema.entry]
  · simp [marked, fileAll]

theorem foldl_addRoutine (spec : Spec) (routines : List Routine) :
    routines.foldl addRoutine spec =
      { spec with
        operations := spec.operations ++ routines.filterMap Routine.routedOperation? } := by
  induction routines generalizing spec with
  | nil => simp
  | cons routine routines induction =>
      rw [List.foldl_cons, induction, addRoutine_eq]
      cases added : routine.routedOperation? <;> simp [added]

theorem foldl_addRecord (spec : Spec) (records : List RecordDecl) :
    records.foldl addRecord spec =
      { spec with
        models := fileAll spec.models
          (records.filterMap fun record => record.markedModel?.map NamedSchema.entry) } := by
  induction records generalizing spec with
  | nil => rfl
  | cons record records induction =>
      rw [List.foldl_cons, induction, addRecord_eq]
      cases added : record.markedModel? <;> simp [added, fileAll]

/-! ## Doc comments -/

/-- The specification with other operations and models. -/
def withDeclared (spec : Spec) (operations : List OperationDraft)
    (models : Keyed NamedSchema) : Spec :=
  { spec with operations, models }

/-- What an annotation says about the interface as a whole has nothing to do with operations and
models. -/
theorem apply_withDeclared (spec : Spec) (operations : List OperationDraft)
    (models : Keyed NamedSchema) (note : Annotation) :
    (spec.withDeclared operations models).apply note =
      (spec.apply note).withDeclared operations models := by
  cases note <;> rfl

theorem addBlock_withDeclared (spec : Spec) (operations : List OperationDraft)
    (models : Keyed NamedSchema) (block : String) :
    (spec.withDeclared operations models).addBlock block =
      (spec.addBlock block).withDeclared operations models :=
  List.foldl_hom (withDeclared · operations models)
    fun spec note => apply_withDeclared spec operations models note

theorem foldl_addBlock_withDeclared (spec : Spec) (operations : List OperationDraft)
    (models : Keyed NamedSchema) (blocks : List String) :
    blocks.foldl addBlock (spec.withDeclared operations models) =
      (blocks.foldl addBlock spec).withDeclared operations models :=
  List.foldl_hom (withDeclared · operations models)
    fun spec block => addBlock_withDeclared spec operations models block

theorem foldl_addBlock_operations (spec : Spec) (blocks : List String) :
    (blocks.foldl addBlock spec).operations = spec.operations := by
  have kept := congrArg Spec.operations
    (foldl_addBlock_withDeclared spec spec.operations spec.models blocks)
  exact kept

theorem foldl_addBlock_models (spec : Spec) (blocks : List String) :
    (blocks.foldl addBlock spec).models = spec.models := by
  have kept := congrArg Spec.models
    (foldl_addBlock_withDeclared spec spec.operations spec.models blocks)
  exact kept

/-! ## Walks -/

/-- A walk takes in the doc comments, and sets the operations and models on the side. -/
theorem walk_eq (spec : Spec) (file : Declarations) :
    spec.walk file =
      (file.docBlocks.foldl addBlock spec).withDeclared (spec.operations ++ file.operations)
        (fileAll spec.models file.models) := by
  rw [walk, foldl_addRecord, foldl_addRoutine]
  simp only [foldl_addBlock_operations, foldl_addBlock_models]
  rfl

/-- Each phase gives the same when it runs alone. -/
theorem walk_eq_of_phases (spec : Spec) (file : Declarations) :
    spec.walk file =
      (file.docBlocks.foldl addBlock spec).withDeclared
        (file.routines.foldl addRoutine spec).operations
        (file.records.foldl addRecord spec).models := by
  rw [walk_eq, foldl_addRoutine, foldl_addRecord]
  rfl

theorem walk_append (spec : Spec) (first second : Declarations) :
    (spec.walk first).walk second = spec.walk (first ++ second) := by
  rw [walk_eq (spec.walk first), walk_eq spec first, walk_eq spec (first ++ second),
    foldl_addBlock_withDeclared]
  simp [withDeclared, fileAll, Declarations.operations, Declarations.models]

theorem foldl_walk (spec : Spec) (files : List Declarations) :
    files.foldl walk spec = spec.walk (.merged files) := by
  induction files generalizing spec with
  | nil => rfl
  | cons file files induction =>
      rw [List.foldl_cons, induction, walk_append, Declarations.merged_cons]

/-- A run over files applies all their annotations about the interface as a whole, appends all
their operations and files all their models. -/
theorem foldl_walk_eq (spec : Spec) (files : List Declarations) :
    files.foldl walk spec =
      ((files.flatMap Declarations.globalNotes).foldl apply spec).withDeclared
        (spec.operations ++ files.flatMap Declarations.operations)
        (fileAll spec.models (files.flatMap Declarations.models)) := by
  have blocks : (files.flatMap Declarations.docBlocks).foldl addBlock spec =
      (files.flatMap Declarations.globalNotes).foldl apply spec := by
    simp only [List.foldl_flatMap, Declarations.globalNotes]
    rfl
  have operations : (Declarations.merged files).operations =
      files.flatMap Declarations.operations :=
    List.filterMap_flatMap
  have models : (Declarations.merged files).models = files.flatMap Declarations.models :=
    List.filterMap_flatMap
  rw [foldl_walk, walk_eq, operations, models, ← blocks]
  rfl

/-- Every operation of a run comes from a routine and has a route. -/
theorem exists_routine_of_mem_operations {files : List Declarations} {draft : OperationDraft}
    (member : draft ∈ (files.foldl walk {}).operations) :
    ∃ routine, OperationDraft.ofRoutine? routine = some draft ∧ draft.isRouted = true := by
  rw [foldl_walk_eq] at member
  obtain ⟨file, -, inFile⟩ := List.mem_flatMap.1 member
  obtain ⟨routine, -, routed⟩ := List.mem_filterMap.1 inFile
  exact ⟨routine, Option.filter_eq_some_iff.1 routed⟩

end Spec

/-! ## Interleavings -/

/-- One declaration, of any phase. -/
inductive Declaration where
  | block (text : String)
  | routine (routine : Routine)
  | record (record : RecordDecl)

/-- The file that holds one declaration. -/
def Declaration.file : Declaration → Declarations
  | .block text => { docBlocks := [text] }
  | .routine added => { routines := [added] }
  | .record added => { records := [added] }

namespace Spec

/-- Takes one declaration into a specification. -/
def take (spec : Spec) : Declaration → Spec
  | .block text => spec.addBlock text
  | .routine routine => spec.addRoutine routine
  | .record record => spec.addRecord record

theorem take_eq_walk (spec : Spec) (declaration : Declaration) :
    spec.take declaration = spec.walk declaration.file := by
  cases declaration <;> rfl

theorem foldl_take (spec : Spec) (declarations : List Declaration) :
    declarations.foldl take spec = spec.walk (.merged (declarations.map Declaration.file)) := by
  rw [← foldl_walk, List.foldl_map]
  congr 1
  funext spec declaration
  exact take_eq_walk spec declaration

/-- Walking files one after the other is walking the file that lists the declarations of both, and
so of any number of files. The phases do not depend on each other: each may run alone, and
declarations may be taken in any order that keeps the order within each phase. -/
theorem walk_files_eq_walk_merged (spec : Spec) :
    (∀ first second : Declarations,
      (spec.walk first).walk second =
        spec.walk
          { docBlocks := first.docBlocks ++ second.docBlocks
            routines := first.routines ++ second.routines
            records := first.records ++ second.records }) ∧
    (∀ files : List Declarations, files.foldl walk spec = spec.walk (.merged files)) ∧
    (∀ file : Declarations,
      spec.walk file =
        { file.docBlocks.foldl addBlock spec with
          operations := (file.routines.foldl addRoutine spec).operations
          models := (file.records.foldl addRecord spec).models }) ∧
    ∀ declarations : List Declaration,
      declarations.foldl take spec = spec.walk (.merged (declarations.map Declaration.file)) := by
  refine ⟨?_, ?_, ?_, ?_⟩
  · intro first second
    exact walk_append spec first second
  · intro files
    exact foldl_walk spec files
  · intro file
    exact walk_eq_of_phases spec file
  · intro declarations
    exact foldl_take spec declarations

/-! ## Two files in one -/

/-- A file with a tag and a routine. -/
def listingFile : Declarations where
  docBlocks := ["!tag read"]
  routines := [⟨"list", "!get /pets", false⟩]

/-- A file with a tag, a routine and a struct. -/
def addingFile : Declarations where
  docBlocks := ["!tag write"]
  routines := [⟨"add", "!post /pets", false⟩]
  records := [⟨"Pet", "!model", {}, some []⟩]

/-- One file with the declarations of both gives the same, and so do its declarations one by one,
the struct first. The tags stand in the order of the files. -/
theorem walk_of_listingFile_and_addingFile :
    let spec := (({} : Spec).walk listingFile).walk addingFile
    spec = ({} : Spec).walk
        { docBlocks := ["!tag read", "!tag write"]
          routines := [⟨"list", "!get /pets", false⟩, ⟨"add", "!post /pets", false⟩]
          records := [⟨"Pet", "!model", {}, some []⟩] } ∧
      [Declaration.record ⟨"Pet", "!model", {}, some []⟩, .routine ⟨"list", "!get /pets", false⟩,
        .block "!tag read", .routine ⟨"add", "!post /pets", false⟩,
        .block "!tag write"].foldl take {} = spec ∧
      spec.tags = [⟨"read", none⟩, ⟨"write", none⟩] ∧ Keyed.keys spec.models = ["Pet"] := by
  intro spec
  obtain ⟨merged, -, phases, interleaved⟩ := walk_files_eq_walk_merged {}
  have whole := merged listingFile addingFile
  have apart := whole.trans (phases _)
  have read : annotations "!tag read" = [.tag ⟨"read", ""⟩] := by with_unfolding_all rfl
  have write : annotations "!tag write" = [.tag ⟨"write", ""⟩] := by with_unfolding_all rfl
  have model : annotations "!model" = [.model ""] := by with_unfolding_all rfl
  refine ⟨whole, (interleaved _).trans whole.symm, ?_, ?_⟩
  · rw [congrArg Spec.tags apart]
    simp only [listingFile, addingFile, List.cons_append, List.nil_append, List.foldl_cons,
      List.foldl_nil, addBlock, read, write]
    rfl
  · rw [congrArg Spec.models apart]
    simp only [listingFile, addingFile, List.nil_append, List.foldl_cons, List.foldl_nil, addRecord,
      model]
    rfl

end Spec
end DocApi
