import DocApi.Proofs.Annotation.Pieces
import DocApi.Proofs.Annotation.TypeWords
import DocApi.Proofs.Source.DocText
import DocApi.Proofs.Spec.References

/-!
# Lines that repeat the type of a field

A line `!field name:type` on a field replaces the schema of its property by that of the type word.
Type words and declared types are read alike: a line that writes out the declared type of its field
replaces the schema by itself, and the model of the struct is the same with and without the line.
-/

namespace DocApi

open Source

/-! ## The line -/

/-- The line `!field label:type`. -/
def typeLine (label : String) (type : TypeText) : List Char :=
  '!' :: "field".toList ++ ' ' :: (label.toList ++ ':' :: type.text)

/-- The line `!field label:type` as the doc comment of a field. -/
def typeComment (label : String) (type : TypeText) : Attribute where
  inner := false
  name := some ⟨"doc", false, doc_ne_empty⟩
  content := .text (String.ofList (' ' :: typeLine label type))

/-- What the line is read as: a type and nothing else. -/
def FieldLine.ofType (label : String) (type : TypeText) : FieldLine where
  name := label
  type := some (String.ofList type.text)
  description := ""
  required := false
  example? := none
  values := none

section Line

variable {label : String} (type : TypeText) (name : isName label.toList = true)

theorem typeLine_eq (label : String) :
    typeLine label type = writeLine "field" [.typed label (String.ofList type.text)] := by
  have spelled : (String.ofList type.text).toList = type.text := String.toList_ofList
  rw [typeLine, writeLine, writePieces, List.flatMap_cons, List.flatMap_nil, List.append_nil,
    Piece.write, spelled]

include name

theorem wordText_typeLine :
    WordText (label.toList ++ ':' :: type.text) (.typed label (String.ofList type.text)) := by
  have word := type.wordText_typed name
  rwa [String.ofList_toList] at word

theorem fits_typeLine :
    ∀ piece ∈ [Piece.typed label (String.ofList type.text)], piece.Fits := by
  intro piece member
  obtain rfl := List.mem_singleton.1 member
  simpa [Piece.Fits] using (wordText_typeLine type name).lexesAlone

/-- The verb is followed by one word. -/
theorem splitVerb_typeLine :
    splitVerb (typeLine label type) =
      some ("field".toList, label.toList ++ ':' :: type.text) := by
  obtain ⟨c, rest, spelled, solid, -⟩ := (wordText_typeLine type name).start
  have known : Verb.ofWord? "field" = some .field := rfl
  have word : trimStart (writePieces [.typed label (String.ofList type.text)]) =
      label.toList ++ ':' :: type.text := by
    have blank : trimStart (' ' :: (label.toList ++ ':' :: type.text)) =
        trimStart (label.toList ++ ':' :: type.text) := rfl
    simp only [writePieces, Piece.write, List.flatMap_cons, List.flatMap_nil, List.append_nil,
      String.toList_ofList]
    rw [blank, spelled, trimStart_of_solid solid]
  rw [typeLine_eq, splitVerb_writeLine (Verb.letters_of_ofWord? known) (fits_typeLine type name),
    word]

theorem lineAnnotation?_typeLine :
    lineAnnotation? (typeLine label type) = some (.field (.ofType label type)) := by
  have read : parseLine (typeLine label type) = .ok (some (.field (.ofType label type))) := by
    rw [typeLine_eq, parseLine_writeLine rfl rfl (fits_typeLine type name)]
    rfl
  rw [lineAnnotation?, read]

theorem not_mem_typeLine : '\n' ∉ typeLine label type := by
  have inVerb : '\n' ∉ "field".toList := by decide
  have inLabel : '\n' ∉ label.toList := TypeText.not_mem_label name (by decide)
  have inType : '\n' ∉ type.text := type.not_mem_text (by decide) (by decide)
  simp only [typeLine, List.mem_append, List.mem_cons, not_or]
  exact ⟨⟨by decide, inVerb⟩, by decide, inLabel, by decide, inType⟩

/-- The lines of doc comments of which one is a type comment. -/
theorem docLines_typeComment (above below : List Attribute) :
    docLines false (above ++ typeComment label type :: below) =
      docLines false above ++ typeLine label type :: docLines false below := by
  have comment : Attribute.comment? false (typeComment label type) =
      some (' ' :: typeLine label type) := by
    simp [Attribute.comment?, typeComment, Attribute.isNamed, Ident.isWord]
  rw [docLines_append]
  simp only [docLines, List.filterMap_cons, comment, List.flatMap_cons,
    commentLines_singleton (not_mem_typeLine type name), List.singleton_append]

/-- The line is one more annotation. -/
theorem fieldLines_typeComment (above below : List Attribute) :
    fieldLines (annotations (docText false (above ++ typeComment label type :: below))) =
      fieldLines (annotations (docText false above)) ++
        .ofType label type :: fieldLines (annotations (docText false below)) := by
  simp only [annotations_docText, docLines_typeComment type name, List.filterMap_append,
    List.filterMap_cons, lineAnnotation?_typeLine type name, fieldLines]

/-- The line is no prose. -/
theorem prose_typeComment (above below : List Attribute) :
    prose (docText false (above ++ typeComment label type :: below)) =
      prose (docText false (above ++ below)) := by
  have marked : isMarked (typeLine label type) = true := rfl
  simp only [prose_docText, docLines_typeComment type name, docLines_append, List.map_append,
    List.map_cons, List.filter_append, List.filter_cons, isMarked_endLine, marked, Bool.not_true,
    Bool.false_eq_true, if_false]

end Line

theorem fieldLines_append (above below : List Attribute) :
    fieldLines (annotations (docText false (above ++ below))) =
      fieldLines (annotations (docText false above)) ++
        fieldLines (annotations (docText false below)) := by
  simp only [annotations_docText, docLines_append, List.filterMap_append, fieldLines]

theorem serialization_typeComment (label : String) (type : TypeText)
    (above below : List Attribute) :
    Serialization.ofAttributes (above ++ typeComment label type :: below) =
      Serialization.ofAttributes (above ++ below) := by
  rw [Serialization.ofAttributes, Serialization.ofAttributes, List.foldl_append, List.foldl_append,
    List.foldl_cons]
  rfl

/-! ## The property -/

/-- A line that does not change what a property is: at most it describes it and makes it
required. -/
structure FieldLine.Describes (line : FieldLine) : Prop where
  type : line.type = none
  example? : line.example? = none
  values : line.values = none

namespace Schema

/-- The schema of a type with a description. -/
def described (type : TypeExpr) (description : Option String) : Schema :=
  { ofType type with description }

theorem exemplify_none (schema : Schema) : schema.exemplify none none = schema := by
  rw [exemplify, Option.none_or, Option.none_or]
  split
  · rfl
  · cases schema
    rfl

theorem retype_described (type : TypeExpr) (description : Option String) :
    (described type description).retype type = described type description := by
  rw [retype]
  split <;> rfl

theorem refine_described {line : FieldLine} (describes : line.Describes) (type : TypeExpr)
    (description : Option String) :
    (described type description).refine line =
      described type ((nonEmptyText? line.description).or description) := by
  rw [refine, describes.type, describes.example?, describes.values, exemplify_none]
  rfl

/-- A type word that is read as the type of a property leaves the property alone. -/
theorem refine_ofType {declared : TypeExpr} {type : TypeText}
    (same : TypeExpr.ofWord type.text = declared) (label : String) (description : Option String) :
    (described declared description).refine (.ofType label type) =
      described declared description := by
  simp only [refine, FieldLine.ofType, String.toList_ofList, same, retype_described, exemplify_none]
  rfl

end Schema

namespace ModelDraft

/-- The property `name` is the schema of a type, but for its description. -/
def KeepsType (draft : ModelDraft) (name : String) (type : TypeExpr) : Prop :=
  ∃ description, Keyed.at? draft.properties name = some (.described type description)

variable {draft : ModelDraft} {name : String} {type : TypeExpr}

theorem keepsType_addProperty (draft : ModelDraft) (name : String) (field : FieldDecl) :
    (draft.addProperty name field).KeepsType name field.type :=
  ⟨_, by rw [at?_addProperty, if_pos rfl]; rfl⟩

theorem KeepsType.refine (keeps : draft.KeepsType name type) {line : FieldLine}
    (describes : line.Describes) : (draft.refine name line).KeepsType name type := by
  obtain ⟨description, found⟩ := keeps
  refine ⟨(nonEmptyText? line.description).or description, ?_⟩
  rw [at?_refine, if_pos rfl, found, Option.map_some, Schema.refine_described describes]

theorem KeepsType.foldl_refine (keeps : draft.KeepsType name type) {lines : List FieldLine}
    (describe : ∀ line ∈ lines, line.Describes) :
    (lines.foldl (fun draft line => draft.refine name line) draft).KeepsType name type :=
  List.foldlRecOn (motive := fun draft : ModelDraft => draft.KeepsType name type) lines _ keeps
    fun _ keeps line member => keeps.refine (describe line member)

/-- A line that writes out the declared type changes nothing. -/
theorem KeepsType.refine_ofType {written : TypeText} (keeps : draft.KeepsType name type)
    (same : TypeExpr.ofWord written.text = type) (label : String) :
    draft.refine name (.ofType label written) = draft := by
  obtain ⟨description, found⟩ := keeps
  have kept : Keyed.adjust draft.properties name (·.refine (.ofType label written)) =
      draft.properties := by
    refine Keyed.adjust_eq_self fun schema listed => ?_
    rw [found, Option.some.injEq] at listed
    rw [← listed, Schema.refine_ofType same]
  rw [ModelDraft.refine]
  split
  · rw [kept]
    rfl
  · rfl

/-- A field is added in the same way with and without the line, when the lines above it leave the
type of the field alone. -/
theorem addField_typeComment {written : TypeText} {field : FieldDecl}
    (same : TypeExpr.ofWord written.text = field.type) {label : String}
    (word : isName label.toList = true) {above : List Attribute}
    (describe : ∀ line ∈ fieldLines (annotations (docText false above)), line.Describes)
    (below : List Attribute) (record : Serialization) (draft : ModelDraft) :
    draft.addField record
        { field with doc := docText false (above ++ typeComment label written :: below) } =
      draft.addField record { field with doc := docText false (above ++ below) } := by
  have serialized : ∀ doc, FieldDecl.serializedName { field with doc } record =
      field.serializedName record := fun _ => rfl
  simp only [addField, serialized]
  split
  · rfl
  · rename_i name _
    have property : draft.addProperty name
          { field with doc := docText false (above ++ typeComment label written :: below) } =
        draft.addProperty name { field with doc := docText false (above ++ below) } := by
      simp only [addProperty, ModelDraft.property, prose_typeComment written word]
    have keeps : KeepsType (draft.addProperty name
        { field with doc := docText false (above ++ below) }) name field.type :=
      keepsType_addProperty draft name _
    rw [property, fieldLines_typeComment written word, fieldLines_append, List.foldl_append,
      List.foldl_append, List.foldl_cons, (keeps.foldl_refine describe).refine_ofType same]

/-- The fields of a struct are added in the same way with and without the line. -/
theorem foldl_addField_typeComment {written : TypeText}
    (same : TypeExpr.ofWord written.text = .ofTy written.toTy) {label : String}
    (word : isName label.toList = true) {above : List Attribute}
    (describe : ∀ line ∈ fieldLines (annotations (docText false above)), line.Describes)
    (below : List Attribute) (record : Serialization) (field : Ident) (before after : List Field) :
    ((before ++ ⟨above ++ typeComment label written :: below, some field, written.toTy⟩ ::
        after).filterMap Declarations.fieldDecl?).foldl (addField record) {} =
      ((before ++ ⟨above ++ below, some field, written.toTy⟩ :: after).filterMap
        Declarations.fieldDecl?).foldl (addField record) {} := by
  have declared : TypeExpr.ofWord written.text = FieldDecl.type
      ⟨field.name, .ofTy written.toTy, "", .ofAttributes (above ++ below)⟩ := same
  have added := addField_typeComment declared word describe below record
  simp only [List.filterMap_append, List.filterMap_cons, Declarations.fieldDecl?, Option.map_some,
    List.foldl_append, List.foldl_cons, serialization_typeComment, added]

end ModelDraft

/-! ## The model -/

/-- A line `!field label:type` on a field of that type is read as one typed token, its type word is
parsed as the declared type and has the same type expression, and the struct has the same model with
and without the line. A type that is only the name of an optional, a wrapper or a collection is left
out: as a type word it is a name like any other. The lines above may describe the field; lines that
give it another type, an example or values would be replaced. -/
theorem model_of_repeated_type {type : TypeText}
    (complete : ∀ name, type = .path false [] name [] → name.ident.name ∉ TypeExpr.holderNames)
    {label : String} (word : isName label.toList = true) {above : List Attribute}
    (describe : ∀ line ∈ fieldLines (annotations (docText false above)), line.Describes)
    (below : List Attribute) :
    splitVerb (typeLine label type) = some ("field".toList, label.toList ++ ':' :: type.text) ∧
      tokens (label.toList ++ ':' :: type.text) = .ok [.typed label (String.ofList type.text)] ∧
      Ty.parse? type.text = some type.toTy ∧
      TypeExpr.ofWord type.text = .ofTy type.toTy ∧
      ∀ (attributes : List Attribute) (struct field : Ident) (before after : List Field)
        (notes : List Annotation),
        let record := fun comments => Declarations.ofRecord attributes struct
          (.struct (before ++ ⟨comments, some field, type.toTy⟩ :: after))
        ∃ model,
          (record (above ++ typeComment label type :: below)).records.map (·.model? notes) =
            [some model] ∧
          (record (above ++ below)).records.map (·.model? notes) = [some model] := by
  have same := TypeExpr.ofWord_text complete
  refine ⟨splitVerb_typeLine type word, (wordText_typeLine type word).lexesAlone.1,
    type.parse?_text, same, fun attributes struct field before after notes => ?_⟩
  have drafts := ModelDraft.foldl_addField_typeComment same word describe below
    (.ofAttributes attributes) field before after
  simp only [Declarations.records_ofRecord, List.map_cons, List.map_nil, RecordDecl.model?,
    Option.map_some, drafts]
  exact ⟨_, rfl, rfl⟩

/-! ## A field with a map of dates -/

/-- The type `HashMap<String, Vec<chrono::DateTime<Utc>>>`. -/
def visitsType : TypeText :=
  .path false [] ⟨⟨"HashMap", false, by decide⟩, rfl, by decide, by decide⟩
    [.path false [] ⟨⟨"String", false, by decide⟩, rfl, by decide, by decide⟩ [],
      .path false [] ⟨⟨"Vec", false, vec_ne_empty⟩, rfl, by decide, by decide⟩
        [.path false [⟨⟨"chrono", false, by decide⟩, rfl, by decide, by decide⟩]
          ⟨⟨"DateTime", false, by decide⟩, rfl, by decide, by decide⟩
          [.path false [] ⟨⟨"Utc", false, by decide⟩, rfl, by decide, by decide⟩ []]]]

/-- The doc comment `When each page was seen.` -/
def visitsComment : Attribute :=
  ⟨false, some ⟨"doc", false, doc_ne_empty⟩, .text " When each page was seen."⟩

/-- The struct `Log` with the one field `visits`, under the given comments. -/
def visitsLog (comments : List Attribute) : Declarations :=
  .ofRecord [] ⟨"Log", false, by decide⟩
    (.struct [⟨comments, some ⟨"visits", false, by decide⟩, visitsType.toTy⟩])

/-- The field `visits` has its schema with and without
`!field visits:HashMap<String, Vec<chrono::DateTime<Utc>>>`. -/
theorem model_of_repeated_map :
    (∀ name, visitsType = .path false [] name [] → name.ident.name ∉ TypeExpr.holderNames) ∧
      isName "visits".toList = true ∧
      (∀ line ∈ fieldLines (annotations (docText false [visitsComment])), line.Describes) ∧
      visitsType.text = "HashMap<String, Vec<chrono::DateTime<Utc>>>".toList ∧
      tokens "visits:HashMap<String, Vec<chrono::DateTime<Utc>>>".toList =
        .ok [.typed "visits" "HashMap<String, Vec<chrono::DateTime<Utc>>>"] ∧
      ∃ model,
        (visitsLog [visitsComment, typeComment "visits" visitsType]).records.map (·.model? []) =
          [some model] ∧
        (visitsLog [visitsComment]).records.map (·.model? []) = [some model] := by
  have complete : ∀ name, visitsType = .path false [] name [] →
      name.ident.name ∉ TypeExpr.holderNames := fun name equality => by
    cases equality
  have word : isName "visits".toList = true := by decide
  have describe : ∀ line ∈ fieldLines (annotations (docText false [visitsComment])),
      line.Describes := by
    have silent : annotations (docText false [visitsComment]) = [] := rfl
    rw [silent]
    exact List.forall_mem_nil _
  have spelled : visitsType.text = "HashMap<String, Vec<chrono::DateTime<Utc>>>".toList := rfl
  obtain ⟨-, lexed, -, -, models⟩ := model_of_repeated_type complete word describe []
  exact ⟨complete, word, describe, spelled, lexed, models [] _ _ [] [] []⟩

end DocApi
