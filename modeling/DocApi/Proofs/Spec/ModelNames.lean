import DocApi.Proofs.Annotation.Verbs
import DocApi.Proofs.Spec.Drafts

/-!
# The names of a model

The properties of a model are named by the fields of its struct. A name is required because one of
the fields with this name is always there, because one of their own lines says so, or because a line
on the struct does. Lines on the struct about other names have no effect at all.
-/

namespace DocApi

open ModelDraft

theorem modelDescription_insert (doc : String) (before : List Annotation) (line : FieldLine)
    (after : List Annotation) :
    modelDescription doc (before ++ .field line :: after) =
      modelDescription doc (before ++ after) := by
  simp [modelDescription, List.findSome?_append]

theorem mem_fieldLines {line : FieldLine} {notes : List Annotation} :
    line ∈ fieldLines notes ↔ .field line ∈ notes := by
  rw [fieldLines, List.mem_filterMap]
  constructor
  · rintro ⟨note, member, read⟩
    split at read
    · rwa [Option.some.inj read] at member
    · cases read
  · exact fun member => ⟨_, member, rfl⟩

theorem fieldLines_insert (before : List Annotation) (line : FieldLine) (after : List Annotation) :
    fieldLines (before ++ .field line :: after) =
      fieldLines before ++ line :: fieldLines after := by
  simp [fieldLines]

theorem fieldLines_concat (before after : List Annotation) :
    fieldLines (before ++ after) = fieldLines before ++ fieldLines after :=
  List.filterMap_append

namespace RecordDecl

/-- The draft has a property for each name under which a field is exchanged. -/
theorem keys_draft (record : RecordDecl) (fields : List FieldDecl) (notes : List Annotation) :
    Keyed.keys (record.draft fields notes).properties =
      (serializedNames record.serialization fields).eraseDups := by
  rw [draft, keys_refineAll, keys_foldl_addField]

/-- A name is required by a field that is always there, by a line of its field or by a line on the
struct. -/
theorem mem_required_draft {record : RecordDecl} {fields : List FieldDecl}
    {notes : List Annotation} {name : String} :
    name ∈ (record.draft fields notes).required ↔
      name ∈ serializedNames record.serialization fields ∧
        ((∃ field ∈ fields, field.serializedName record.serialization = some name ∧
            field.serialization.omitEmpty = false) ∨
          (∃ field ∈ fields, field.serializedName record.serialization = some name ∧
            ∃ line, .field line ∈ annotations field.doc ∧ line.required = true) ∨
          ∃ line, .field line ∈ notes ∧ line.name = name ∧ line.required = true) := by
  have fromField : (∃ field ∈ fields, field.serializedName record.serialization = some name ∧
      (field.serialization.omitEmpty = false ∨
        ∃ line, .field line ∈ annotations field.doc ∧ line.required = true)) →
      name ∈ serializedNames record.serialization fields :=
    fun ⟨field, member, named, _⟩ => mem_serializedNames.2 ⟨field, member, named⟩
  rw [draft, mem_required_refineAll, mem_required_foldl_addField, keys_foldl_addField,
    List.mem_eraseDups, ← or_assoc, ← exists_or]
  simp only [← and_or_left, mem_fieldLines, List.not_mem_nil, false_or]
  rw [and_or_left, and_iff_right_of_imp fromField]

/-- A line on the struct about a name without a property changes nothing. -/
theorem draft_insert {record : RecordDecl} {fields : List FieldDecl} {line : FieldLine}
    (unknown : line.name ∉ serializedNames record.serialization fields)
    (before after : List Annotation) :
    record.draft fields (before ++ .field line :: after) =
      record.draft fields (before ++ after) := by
  have absent : line.name ∉ Keyed.keys (record.draft fields before).properties := by
    rwa [keys_draft, List.mem_eraseDups]
  have idle := refine_of_not_mem absent line
  rw [draft] at idle
  rw [draft, draft, fieldLines_insert, fieldLines_concat, refineAll_append, refineAll_append,
    refineAll_cons, idle]

end RecordDecl

/-- The properties of the model of a struct are the names of its fields, each at the place of its
first field. A name is required, once, when a field with this name is always there, when a line of
such a field says so, or when a line on the struct does. Examples belong to properties, and a line
on the struct about another name changes nothing. -/
theorem names_of_model {record : RecordDecl} {fields : List FieldDecl}
    (struct : record.fields = some fields) (notes : List Annotation) :
    let names := serializedNames record.serialization fields
    ∃ model properties, record.model? notes = some model ∧
      model.schema.properties = some properties ∧ Keyed.keys properties = names.eraseDups ∧
      model.schema.required.Nodup ∧
      (∀ name, name ∈ model.schema.required ↔
        name ∈ names ∧
          ((∃ field ∈ fields, field.serializedName record.serialization = some name ∧
              field.serialization.omitEmpty = false) ∨
            (∃ field ∈ fields, field.serializedName record.serialization = some name ∧
              ∃ line, .field line ∈ annotations field.doc ∧ line.required = true) ∨
            ∃ line, .field line ∈ notes ∧ line.name = name ∧ line.required = true)) ∧
      (∀ name ∈ Keyed.keys model.examples, name ∈ names) ∧
      ∀ before line after, notes = before ++ .field line :: after → line.name ∉ names →
        record.model? (before ++ after) = some model := by
  intro names
  have tidy : (record.draft fields notes).Tidy :=
    (tidy_foldl_addField record.serialization fields).refineAll _ _
  have keys := record.keys_draft fields notes
  refine ⟨_, _, by rw [RecordDecl.model?_eq, struct, Option.map_some], rfl, keys, tidy.once,
    fun _ => RecordDecl.mem_required_draft, ?_, ?_⟩
  · intro name member
    have known := tidy.examples name member
    rwa [keys, List.mem_eraseDups] at known
  · rintro before line after rfl unknown
    rw [RecordDecl.model?_eq, struct, Option.map_some, RecordDecl.draft_insert unknown,
      modelDescription_insert]

/-! ## A struct with shared names -/

/-- A struct with two fields under the name `key`, a field that is left out, and fields that are not
always there, of which one has a line of its own. -/
def accountRecord : RecordDecl where
  name := "Account"
  doc := "!model"
  serialization := { renameAll := some "camelCase" }
  fields := some
    [⟨"id", .named "u64", "", { rename := some "key" }⟩,
      ⟨"secret", .named "String", "", { skip := true }⟩,
      ⟨"owner_name", .named "String", "", { omitEmpty := true }⟩,
      ⟨"backup_id", .named "u64", "", { rename := some "key", omitEmpty := true }⟩,
      ⟨"label", .named "String", "!field other required", { omitEmpty := true }⟩,
      ⟨"note", .named "String", "", { omitEmpty := true }⟩]

/-- Lines on the struct: one about a property, and one about the field that is left out. -/
def accountNotes : List Annotation :=
  [.field ⟨"ownerName", none, "", true, none, none⟩,
    .field ⟨"secret", none, "", true, some (.string "x"), none⟩]

theorem serializedNames_accountRecord :
    serializedNames accountRecord.serialization (accountRecord.fields.getD []) =
      ["key", "ownerName", "key", "label", "note"] := by
  rfl

theorem annotations_field_required :
    annotations "!field other required" = [.field ⟨"other", none, "", true, none, none⟩] := by
  have one : lines "!field other required".toList = ["!field other required".toList] := by decide
  have cut : splitVerb "!field other required".toList =
      some ("field".toList, "other required".toList) := by decide
  have lexed : tokens "other required".toList = .ok [.word "other", .word "required"] := by
    with_unfolding_all rfl
  have word : asciiLower (String.ofList "field".toList) = "field" := by decide
  have verb : Verb.ofWord? "field" = some .field := by decide
  have unlike : eqIgnoringCase "other" "required" = false := by decide
  have read : (LineTokens.ofTokens [.word "other", .word "required"]).read "field" .field =
      .ok (.field ⟨"other", none, "", true, none, none⟩) := by
    simp [LineTokens.ofTokens, LineTokens.read, LineTokens.field, takeSwitch, takeFirst, isSwitch,
      unlike]
    rfl
  rw [annotations, one]
  simp only [List.filterMap_cons, List.filterMap_nil, lineAnnotation?, parseLine_eq, cut, lexed,
    word, verb, bind, Except.bind, pure, Except.pure, read]

/-- The names of the struct, what it requires, and its model without the second line. -/
theorem names_of_accountRecord :
    ∃ model properties, accountRecord.model? accountNotes = some model ∧
      model.schema.properties = some properties ∧
      Keyed.keys properties = ["key", "ownerName", "label", "note"] ∧
      "label" ∈ model.schema.required ∧ "ownerName" ∈ model.schema.required ∧
      "note" ∉ model.schema.required ∧
      accountRecord.model? (accountNotes.take 1) = some model := by
  have struct : accountRecord.fields = some (accountRecord.fields.getD []) := rfl
  obtain ⟨model, properties, made, listed, keys, -, required, -, idle⟩ :=
    names_of_model struct accountNotes
  rw [serializedNames_accountRecord] at keys required idle
  have silent : annotations "" = [] := rfl
  refine ⟨model, properties, made, listed, keys, ?_, ?_, ?_, ?_⟩
  · refine (required _).2 ⟨by decide, Or.inr (Or.inl ?_)⟩
    exact ⟨⟨"label", .named "String", "!field other required", { omitEmpty := true }⟩,
      by decide, rfl, _, by rw [annotations_field_required]; exact List.mem_cons_self, rfl⟩
  · exact (required _).2 ⟨by decide, Or.inr (Or.inr ⟨_, List.mem_cons_self, rfl, rfl⟩)⟩
  · intro member
    have plain : ∀ field ∈ accountRecord.fields.getD [],
        field.serializedName accountRecord.serialization = some "note" →
        field.serialization.omitEmpty = true ∧ field.doc = "" := by
      decide +kernel
    obtain ⟨-, ⟨field, inFields, named, always⟩ | ⟨field, inFields, named, line, own, -⟩ |
      ⟨line, given, named, -⟩⟩ := (required _).1 member
    · rw [(plain field inFields named).1] at always
      cases always
    · rw [(plain field inFields named).2, silent] at own
      cases own
    · have other : line.name = "ownerName" ∨ line.name = "secret" := by
        simp only [accountNotes, List.mem_cons, Annotation.field.injEq, List.not_mem_nil,
          or_false] at given
        exact given.imp (congrArg FieldLine.name) (congrArg FieldLine.name)
      rw [named] at other
      revert other
      decide
  · exact idle [_] _ [] rfl (by decide)

end DocApi
