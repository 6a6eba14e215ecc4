import DocApi.Proofs.Schema.Types
import DocApi.Proofs.Source.DocText
import DocApi.Proofs.Spec.Components
import DocApi.Proofs.Spec.Drafts
import DocApi.Proofs.Text

/-!
# References to models

A model is filed under the name of its struct, and a field of that type refers to it by the name
that its type is written with. The two are the same name unless the struct has a raw identifier:
then the model is filed without `r#`, and the reference, which keeps it, leads nowhere.
-/

namespace DocApi

open Source

/-! ## Names -/

/-- Whether a name stands for a model: no primitive, well-known type, wrapper or collection is
called so. -/
structure NamesModel (name : String) : Prop where
  primitive : primitive? name = none
  wellKnown : wellKnownFormat? name = none
  optional : name ≠ "Option"
  wrapper : name ∉ TypeExpr.wrapperNames
  sequence : name ∉ TypeExpr.sequenceNames
  map : name ∉ TypeExpr.mapNames

theorem Source.Ident.spelling_of_not_raw {ident : Ident} (plain : ident.raw = false) :
    ident.spelling = ident.name := by
  simp [spelling, plain]

theorem Source.Ident.spelling_of_raw {ident : Ident} (raw : ident.raw = true) :
    ident.spelling = "r#" ++ ident.name := by
  simp [spelling, raw]

/-- Only a raw identifier is written in another way than it is called. -/
theorem Source.Ident.spelling_eq_name_iff (ident : Ident) :
    ident.spelling = ident.name ↔ ident.raw = false := by
  refine ⟨fun same => ?_, spelling_of_not_raw⟩
  cases raw : ident.raw with
  | false => rfl
  | true =>
      rw [spelling_of_raw raw] at same
      have lengths := congrArg (fun text => text.toList.length) same
      simp only [String.toList_append, List.length_append] at lengths
      have written : "r#".toList.length = 2 := rfl
      omega

/-- No name in a list of names without `#` is written raw. -/
theorem raw_not_mem {names : List String} (plain : ∀ name ∈ names, '#' ∉ name.toList)
    (name : String) : "r#" ++ name ∉ names := by
  intro member
  exact plain _ member (by simp)

/-- A name with `r#` stands for a model, whatever follows. -/
theorem namesModel_raw (name : String) : NamesModel ("r#" ++ name) where
  primitive := by
    have plain : ∀ entry ∈ primitives, ∀ known ∈ entry.1, '#' ∉ known.toList := by decide
    rw [primitive?, Option.map_eq_none_iff, List.find?_eq_none]
    intro entry member
    simpa using raw_not_mem (plain entry member) name
  wellKnown := by
    have unlike : "r#" ++ name ∉
        ["DateTime", "NaiveDateTime", "OffsetDateTime", "NaiveDate", "Uuid"] :=
      raw_not_mem (by decide) name
    simp_all [wellKnownFormat?]
  optional := by
    have unlike : "r#" ++ name ∉ ["Option"] := raw_not_mem (by decide) name
    simpa using unlike
  wrapper := raw_not_mem (by decide) name
  sequence := raw_not_mem (by decide) name
  map := raw_not_mem (by decide) name

/-- The name that stands for a model does so in its written form. -/
theorem NamesModel.spelling {ident : Ident} (stands : NamesModel ident.name) :
    NamesModel ident.spelling := by
  cases raw : ident.raw with
  | false => rwa [Ident.spelling_of_not_raw raw]
  | true =>
      rw [Ident.spelling_of_raw raw]
      exact namesModel_raw ident.name

theorem Schema.ofName_of_namesModel {name : String} (stands : NamesModel name) :
    Schema.ofName name = .ref name := by
  simp [ofName, stands.primitive, wellKnown?, stands.wellKnown]

theorem TypeExpr.ofPath_of_namesModel {name : String} (stands : NamesModel name) :
    TypeExpr.ofPath [] name [] = .named name := by
  simp [ofPath, stands.optional, stands.wrapper, stands.sequence, stands.map]

theorem Schema.referencedName_ref (name : String) :
    (Schema.ref name).referencedName = some name := by
  have cut : afterStart? referenceStart.toList (referenceStart.toList ++ name.toList) =
      some name.toList :=
    afterStart?_eq_some_iff.2 rfl
  simp [referencedName, ref, cut]

/-! ## Nested types -/

/-- The types around a type, from the outside in. -/
inductive Nesting where
  /-- Nothing around it. -/
  | here
  /-- `Option<..>` -/
  | optional (name : Ident) (known : name.spelling = "Option") (inner : Nesting)
  /-- `Box<..>`, `Rc<..>`, `Arc<..>` and the other wrappers -/
  | wrapper (name : Ident) (known : name.spelling ∈ TypeExpr.wrapperNames) (inner : Nesting)
  /-- `Vec<..>` and the other sequences -/
  | sequence (name : Ident) (known : name.spelling ∈ TypeExpr.sequenceNames) (inner : Nesting)
  /-- `HashMap<key, ..>` and the other maps -/
  | map (name : Ident) (known : name.spelling ∈ TypeExpr.mapNames) (key : Ty) (inner : Nesting)
  /-- `[..]` -/
  | slice (inner : Nesting)
  /-- `&..` -/
  | reference (inner : Nesting)

namespace Nesting

/-- Puts a type in the middle. -/
def fill (type : Ty) : Nesting → Ty
  | .here => type
  | .optional name _ inner => .path [] name [inner.fill type]
  | .wrapper name _ inner => .path [] name [inner.fill type]
  | .sequence name _ inner => .path [] name [inner.fill type]
  | .map name _ key inner => .path [] name [key, inner.fill type]
  | .slice inner => .slice (inner.fill type)
  | .reference inner => .reference (inner.fill type)

/-- The name that a schema refers to in the place of the type in the middle. Sequences have it among
their items and maps among their values; everything else around it leaves no trace. -/
def referenceAt : Nesting → Schema → Option String
  | .here, schema => schema.referencedName
  | .optional _ _ inner, schema => inner.referenceAt schema
  | .wrapper _ _ inner, schema => inner.referenceAt schema
  | .sequence _ _ inner, schema => schema.items.bind inner.referenceAt
  | .map _ _ _ inner, schema => schema.additional.bind inner.referenceAt
  | .slice inner, schema => schema.items.bind inner.referenceAt
  | .reference inner, schema => inner.referenceAt schema

end Nesting

/-- Two schemas have the same structure: they refer to the same schema, and so do their items and
values. -/
structure Schema.SameStructure (first second : Schema) : Prop where
  reference : first.reference = second.reference
  items : first.items = second.items
  additional : first.additional = second.additional

namespace Nesting

theorem referenceAt_congr (nesting : Nesting) {first second : Schema}
    (same : first.SameStructure second) :
    nesting.referenceAt first = nesting.referenceAt second := by
  induction nesting with
  | here => simp only [referenceAt, Schema.referencedName, same.reference]
  | optional _ _ inner induction => exact induction
  | wrapper _ _ inner induction => exact induction
  | sequence _ _ inner _ => simp only [referenceAt, same.items]
  | map _ _ _ inner _ => simp only [referenceAt, same.additional]
  | slice inner _ => simp only [referenceAt, same.items]
  | reference inner induction => exact induction

theorem referenceAt_empty (nesting : Nesting) : nesting.referenceAt {} = none := by
  induction nesting with
  | here => rfl
  | optional _ _ inner induction => exact induction
  | wrapper _ _ inner induction => exact induction
  | sequence _ _ inner _ => rfl
  | map _ _ _ inner _ => rfl
  | slice inner _ => rfl
  | reference inner induction => exact induction

/-- A schema that refers to something is not left out. -/
theorem nonEmpty?_of_referenceAt {nesting : Nesting} {schema : Schema} {name : String}
    (refers : nesting.referenceAt schema = some name) : schema.nonEmpty? = some schema := by
  have filled : schema.isEmpty = false := by
    rw [Schema.isEmpty_eq_false_iff]
    rintro rfl
    rw [referenceAt_empty] at refers
    cases refers
  simp [Schema.nonEmpty?, filled]

theorem sameStructure_orNull (schema : Schema) : schema.orNull.SameStructure schema := by
  rw [Schema.orNull]
  split <;> exact ⟨rfl, rfl, rfl⟩

/-- At any depth, the schema of a type refers to a model by the written form of its name. -/
theorem referenceAt_ofType {ident : Ident} (stands : NamesModel ident.name) (nesting : Nesting) :
    nesting.referenceAt (.ofType (.ofTy (nesting.fill (.path [] ident [])))) =
      some ident.spelling := by
  induction nesting with
  | here =>
      have named : TypeExpr.ofTy (.path [] ident []) = .named ident.spelling :=
        TypeExpr.ofPath_of_namesModel stands.spelling
      rw [fill, named, Schema.ofType, Schema.ofName_of_namesModel stands.spelling, referenceAt,
        Schema.referencedName_ref]
  | optional name known inner induction =>
      have type : TypeExpr.ofTy ((optional name known inner).fill (.path [] ident [])) =
          .optional (.ofTy (inner.fill (.path [] ident []))) := by
        simp [fill, TypeExpr.ofTy, TypeExpr.ofTys, TypeExpr.ofPath, known]
      rw [type, Schema.ofType, referenceAt, referenceAt_congr inner (sameStructure_orNull _),
        induction]
  | wrapper name known inner induction =>
      have type : TypeExpr.ofTy ((wrapper name known inner).fill (.path [] ident [])) =
          .ofTy (inner.fill (.path [] ident [])) := by
        simp [fill, TypeExpr.ofTy, TypeExpr.ofTys, TypeExpr.ofPath_of_wrapper known]
      rw [type, referenceAt, induction]
  | sequence name known inner induction =>
      have type : TypeExpr.ofTy ((sequence name known inner).fill (.path [] ident [])) =
          .sequence (.ofTy (inner.fill (.path [] ident []))) := by
        simp [fill, TypeExpr.ofTy, TypeExpr.ofTys, TypeExpr.ofPath_of_sequence known]
      rw [type, Schema.ofType, nonEmpty?_of_referenceAt induction]
      exact induction
  | map name known key inner induction =>
      have type : TypeExpr.ofTy ((map name known key inner).fill (.path [] ident [])) =
          .map (.ofTy (inner.fill (.path [] ident []))) := by
        simp [fill, TypeExpr.ofTy, TypeExpr.ofTys, TypeExpr.ofPath_of_map known]
      rw [type, Schema.ofType, nonEmpty?_of_referenceAt induction]
      exact induction
  | slice inner induction =>
      rw [fill, TypeExpr.ofTy, Schema.ofType, nonEmpty?_of_referenceAt induction]
      exact induction
  | reference inner induction =>
      rw [fill, TypeExpr.ofTy]
      exact induction

end Nesting

/-! ## Properties of models -/

namespace Schema

theorem SameStructure.trans {first second third : Schema} (left : first.SameStructure second)
    (right : second.SameStructure third) : first.SameStructure third :=
  ⟨left.reference.trans right.reference, left.items.trans right.items,
    left.additional.trans right.additional⟩

/-- A line without a type leaves the structure of a property alone. -/
theorem sameStructure_refine {line : FieldLine} (untyped : line.type = none) (schema : Schema) :
    (schema.refine line).SameStructure schema := by
  simp only [refine, untyped, exemplify]
  split <;> exact ⟨rfl, rfl, rfl⟩

end Schema

namespace ModelDraft

/-- The property `name` has the structure of `schema`. -/
def Shows (draft : ModelDraft) (name : String) (schema : Schema) : Prop :=
  ∃ property, Keyed.at? draft.properties name = some property ∧ property.SameStructure schema

theorem shows_addProperty (draft : ModelDraft) (name : String) (field : FieldDecl) :
    (draft.addProperty name field).Shows name (.ofType field.type) :=
  ⟨property field, by rw [at?_addProperty, if_pos rfl], ⟨rfl, rfl, rfl⟩⟩

theorem Shows.refine {draft : ModelDraft} {name : String} {schema : Schema}
    (shows : draft.Shows name schema) {refined : String} {line : FieldLine}
    (untyped : refined = name → line.type = none) :
    (draft.refine refined line).Shows name schema := by
  obtain ⟨property, found, same⟩ := shows
  by_cases own : refined = name
  · refine ⟨property.refine line, ?_,
      (Schema.sameStructure_refine (untyped own) property).trans same⟩
    rw [at?_refine, if_pos own.symm, found, Option.map_some]
  · exact ⟨property, by rw [at?_refine, if_neg (Ne.symm own), found], same⟩

/-- What every step keeps, a run keeps. -/
theorem Shows.foldl {ι : Type} {draft : ModelDraft} {name : String} {schema : Schema}
    (shows : draft.Shows name schema) {step : ModelDraft → ι → ModelDraft} {steps : List ι}
    (kept : ∀ taken ∈ steps, ∀ draft : ModelDraft, draft.Shows name schema →
      (step draft taken).Shows name schema) : (steps.foldl step draft).Shows name schema :=
  List.foldlRecOn (motive := fun draft => draft.Shows name schema) steps step shows
    fun draft shows taken member => kept taken member draft shows

/-- A field has its property, unless one of its own lines gives another type. -/
theorem shows_addField {record : Serialization} {field : FieldDecl} {name : String}
    (named : field.serializedName record = some name)
    (untyped : ∀ line ∈ fieldLines (annotations field.doc), line.type = none)
    (draft : ModelDraft) : (draft.addField record field).Shows name (.ofType field.type) := by
  simp only [addField, named]
  exact (shows_addProperty draft name field).foldl
    fun line member draft shows => shows.refine fun _ => untyped line member

/-- A field with another name leaves the property alone. -/
theorem Shows.addField {draft : ModelDraft} {name : String} {schema : Schema}
    (shows : draft.Shows name schema) {record : Serialization} {field : FieldDecl}
    (other : field.serializedName record ≠ some name) :
    (draft.addField record field).Shows name schema := by
  rw [ModelDraft.addField]
  split
  · exact shows
  · rename_i added named
    have different : added ≠ name := fun equality => other (by rw [named, equality])
    have kept : (draft.addProperty added field).Shows name schema := by
      obtain ⟨property, found, same⟩ := shows
      exact ⟨property, by rw [at?_addProperty, if_neg different.symm, found], same⟩
    exact kept.foldl
      fun line _ draft shows => shows.refine fun equality => absurd equality different

end ModelDraft

/-- The property `name` of a record comes from the declared type of `field`: no later field and no
annotation line replaces it. -/
structure RecordDecl.Declares (record : RecordDecl) (notes : List Annotation) (field : FieldDecl)
    (name : String) : Prop where
  /-- The field is the last one with this name. -/
  last : ∃ before after, record.fields = some (before ++ field :: after) ∧
    ∀ later ∈ after, later.serializedName record.serialization ≠ some name
  named : field.serializedName record.serialization = some name
  /-- The lines of the field give no other type. -/
  own : ∀ line ∈ fieldLines (annotations field.doc), line.type = none
  /-- The lines of the record give the property no other type. -/
  lines : ∀ line ∈ fieldLines notes, line.name = name → line.type = none

/-- Such a property has the structure of the schema of the declared type. -/
theorem RecordDecl.Declares.property {record : RecordDecl} {notes : List Annotation}
    {field : FieldDecl} {name : String} (declares : record.Declares notes field name) :
    ∃ model properties property, record.model? notes = some model ∧
      model.schema.properties = some properties ∧ Keyed.at? properties name = some property ∧
      property.SameStructure (.ofType field.type) := by
  obtain ⟨before, after, fields, later⟩ := declares.last
  have added : ((before ++ field :: after).foldl (ModelDraft.addField record.serialization)
      {}).Shows name (.ofType field.type) := by
    rw [List.foldl_append, List.foldl_cons]
    exact (ModelDraft.shows_addField declares.named declares.own _).foldl
      fun other member draft shows => shows.addField (later other member)
  obtain ⟨property, found, same⟩ : ((fieldLines notes).foldl
      (fun draft line => draft.refine line.name line)
      ((before ++ field :: after).foldl (ModelDraft.addField record.serialization) {})).Shows name
      (.ofType field.type) :=
    added.foldl fun line member draft shows => shows.refine (declares.lines line member)
  rw [RecordDecl.model?, fields, Option.map_some]
  exact ⟨_, _, property, rfl, rfl, found, same⟩

/-! ## Models and their names -/

/-- The one record of a struct. -/
theorem Declarations.records_ofRecord (attributes : List Attribute) (ident : Ident)
    (fields : List Field) :
    (ofRecord attributes ident (.struct fields)).records =
      [{ name := ident.name
         doc := docText false attributes
         serialization := .ofAttributes attributes
         fields := some (fields.filterMap fieldDecl?) }] := by
  simp [ofRecord, ofBody, ofFields, recordFields]

/-- A struct that is marked as a model is filed under its name, without `r#`. -/
theorem Declarations.keys_models_ofItem {attributes : List Attribute}
    (marked : Spec.isModel (annotations (docText false attributes)) = true) (ident : Ident)
    (fields : List Field) :
    Keyed.keys (ofItem (.record attributes ident (.struct fields))).models = [ident.name] := by
  have docless : (ofDoc false attributes).records = [] := by
    simp only [ofDoc]
    split <;> rfl
  have records : (ofItem (.record attributes ident (.struct fields))).records =
      (ofRecord attributes ident (.struct fields)).records := by
    simp [ofItem, docless]
  simp [models, records, records_ofRecord, RecordDecl.markedModel?, marked, RecordDecl.model?,
    NamedSchema.entry, Keyed.keys]

/-- A model is filed under the name of its struct. Wherever a property comes from a field whose type
is, at any depth, the struct by the same identifier, the property refers to the identifier as it is
written; so the reference leads to the model exactly when the identifier is not raw. -/
theorem reference_leads_to_model_iff {ident : Ident} (stands : NamesModel ident.name)
    {attributes : List Attribute}
    (marked : Spec.isModel (annotations (docText false attributes)) = true) (fields : List Field)
    (spec : Spec) :
    let file := Declarations.ofItem (.record attributes ident (.struct fields))
    Keyed.keys file.models = [ident.name] ∧
      ident.name ∈ Keyed.keys (spec.walk file).models ∧
      ∀ (nesting : Nesting) (record : RecordDecl) (notes : List Annotation) (field : FieldDecl)
        (name : String), record.Declares notes field name →
        field.type = .ofTy (nesting.fill (.path [] ident [])) →
        ∃ model properties property, record.model? notes = some model ∧
          model.schema.properties = some properties ∧
          Keyed.at? properties name = some property ∧
          nesting.referenceAt property = some ident.spelling ∧
          (nesting.referenceAt property = some ident.name ↔ ident.raw = false) := by
  intro file
  have filed : Keyed.keys file.models = [ident.name] :=
    Declarations.keys_models_ofItem marked ident fields
  refine ⟨filed, ?_, ?_⟩
  · rw [Spec.walk_models, Spec.fileAll_eq, Keyed.keys_append, List.mem_append]
    by_cases taken : ident.name ∈ Keyed.keys spec.models
    · exact Or.inl taken
    · refine Or.inr ((Keyed.mem_keys_filter (p := fun key => !Keyed.holds spec.models key)).2 ?_)
      rw [Keyed.mem_keys_firstEntries, filed]
      simpa using taken
  · intro nesting record notes field name declares type
    obtain ⟨model, properties, property, generated, listed, found, same⟩ := declares.property
    have refers : nesting.referenceAt property = some ident.spelling := by
      rw [nesting.referenceAt_congr same, type]
      exact nesting.referenceAt_ofType stands
    refine ⟨model, properties, property, generated, listed, found, refers, ?_⟩
    rw [refers, Option.some.injEq]
    exact ident.spelling_eq_name_iff

/-! ## A struct with a raw identifier -/

/-- The identifier `r#Type`. -/
def rawType : Ident := ⟨"Type", true, by decide⟩

/-- The attributes of an item with the doc comment `!model`. -/
def modelAttributes : List Attribute :=
  [⟨false, some ⟨"doc", false, doc_ne_empty⟩, .text " !model"⟩]

theorem vec_ne_empty : "Vec" ≠ "" := by decide

/-- The type `Vec<..>`. -/
def Nesting.vec : Nesting := .sequence ⟨"Vec", false, vec_ne_empty⟩ (by decide) .here

/-- A field of the type `Vec<r#Type>`. -/
def manyField : FieldDecl where
  name := "many"
  type := .ofTy (Nesting.vec.fill (.path [] rawType []))
  doc := ""
  serialization := {}

/-- A struct with this field only. -/
def holderRecord : RecordDecl where
  name := "Holder"
  doc := "!model"
  serialization := {}
  fields := some [manyField]

/-- The model of the struct `r#Type` is filed as `Type`, and a field of the type `Vec<r#Type>`
refers to `r#Type`, under which no model is filed. -/
theorem reference_to_raw_struct :
    NamesModel rawType.name ∧
      Spec.isModel (annotations (docText false modelAttributes)) = true ∧
      holderRecord.Declares [] manyField "many" ∧
      Keyed.keys (Declarations.ofItem (.record modelAttributes rawType (.struct []))).models =
        ["Type"] ∧
      ∃ model properties property, holderRecord.model? [] = some model ∧
        model.schema.properties = some properties ∧
        Keyed.at? properties "many" = some property ∧
        Nesting.vec.referenceAt property = some "r#Type" ∧
        Nesting.vec.referenceAt property ≠ some "Type" := by
  have stands : NamesModel rawType.name :=
    ⟨by decide, by decide, by decide, by decide, by decide, by decide⟩
  have marked : Spec.isModel (annotations (docText false modelAttributes)) = true := by
    with_unfolding_all rfl
  have declares : holderRecord.Declares [] manyField "many" := by
    refine ⟨⟨[], [], rfl, List.forall_mem_nil _⟩, rfl, ?_, List.forall_mem_nil _⟩
    have silent : annotations manyField.doc = [] := rfl
    rw [silent]
    exact List.forall_mem_nil _
  obtain ⟨filed, -, refers⟩ := reference_leads_to_model_iff stands marked [] {}
  obtain ⟨model, properties, property, generated, listed, found, spelled, leads⟩ :=
    refers .vec holderRecord [] manyField "many" declares rfl
  refine ⟨stands, marked, declares, filed, model, properties, property, generated, listed, found,
    spelled, fun leadsThere => ?_⟩
  cases leads.1 leadsThere

end DocApi
