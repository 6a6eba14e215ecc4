import DocApi.Proofs.Schema.Types
import DocApi.Proofs.Spec.Drafts

/-!
# The properties of a model

The lines about a property are those on its field, followed by those on the struct. The last line
with a type that can be read decides what the property is. The last description counts, before the
prose of the field; examples and values count from the deciding line on, unless the property is a
reference.
-/

namespace DocApi

/-! ## What lines say -/

namespace FieldLine

/-- The type that a line gives to its property, when it can be read. -/
def override? (line : FieldLine) : Option TypeExpr :=
  (line.type.map fun word => TypeExpr.ofWord word.toList).filter (· ≠ .unsupported)

/-- The description that a line gives to its property. -/
def text? (line : FieldLine) : Option String := nonEmptyText? line.description

/-- What the last line says that says anything. -/
def last? {α : Type} (said : FieldLine → Option α) (lines : List FieldLine) : Option α :=
  lines.reverse.findSome? said

section Last

variable {α : Type} (said : FieldLine → Option α)

@[simp] theorem last?_nil : last? said [] = none := rfl

theorem last?_append (before after : List FieldLine) :
    last? said (before ++ after) = (last? said after).or (last? said before) := by
  simp [last?, List.findSome?_append]

theorem last?_cons (line : FieldLine) (lines : List FieldLine) :
    last? said (line :: lines) = (last? said lines).or (said line) := by
  simp [last?, List.findSome?_append]

end Last

end FieldLine

namespace Schema

/-! ## Types with decorations -/

/-- The schema of a type says no more than its structure. -/
theorem undecorated_ofType (type : TypeExpr) :
    (ofType type).description = none ∧ (ofType type).example? = none ∧
      (ofType type).values = none := by
  induction type with
  | named name =>
      rw [ofType]
      rcases ofName_cases name with ⟨base, format, equality⟩ | equality <;> rw [equality] <;>
        exact ⟨rfl, rfl, rfl⟩
  | optional inner induction =>
      rw [ofType, orNull]
      split <;> exact induction
  | sequence element _ => exact ⟨rfl, rfl, rfl⟩
  | map value _ => exact ⟨rfl, rfl, rfl⟩
  | foreign qualifier name =>
      rw [ofType]
      cases known : wellKnown? name with
      | none => exact ⟨rfl, rfl, rfl⟩
      | some schema =>
          obtain ⟨format, rfl⟩ := wellKnown?_eq_some known
          exact ⟨rfl, rfl, rfl⟩
  | unsupported => exact ⟨rfl, rfl, rfl⟩

/-- The schema of a type with a description and, unless it is a reference, an example and
values. -/
def decorated (type : TypeExpr) (description : Option String) (example? : Option Json)
    (values : Option (List Json)) : Schema :=
  { ofType type with
    description
    example? := if (ofType type).isReference then none else example?
    values := if (ofType type).isReference then none else values }

/-- A line gives a type, then a description, then an example and values. -/
theorem refine_eq (schema : Schema) (line : FieldLine) :
    schema.refine line =
      exemplify
        { line.override?.elim schema ofType with
          description := line.text?.or schema.description }
        line.example? line.values := by
  rw [refine, FieldLine.override?]
  cases line.type with
  | none => rfl
  | some word =>
      by_cases unread : TypeExpr.ofWord word.toList = .unsupported <;>
        simp [retype, unread, FieldLine.text?, Option.filter]

section Lines

variable (type : TypeExpr) (description : Option String) (example? : Option Json)
  (values : Option (List Json))

theorem decorated_none :
    decorated type description none none = { ofType type with description } := by
  obtain ⟨-, noExample, noValues⟩ := undecorated_ofType type
  simp only [decorated, ite_self]
  rw [← noExample, ← noValues]

theorem exemplify_decorated (given? : Option Json) (listed : Option (List Json)) :
    (decorated type description example? values).exemplify given? listed =
      decorated type description (given?.or example?) (listed.or values) := by
  have kind : (decorated type description example? values).isReference =
      (ofType type).isReference := rfl
  rw [exemplify, kind]
  cases inline : (ofType type).isReference <;> simp [decorated, inline]

theorem refine_decorated_of_untyped {line : FieldLine} (untyped : line.override? = none) :
    (decorated type description example? values).refine line =
      decorated type (line.text?.or description) (line.example?.or example?)
        (line.values.or values) := by
  rw [refine_eq, untyped, ← exemplify_decorated]
  rfl

theorem refine_decorated_of_typed {line : FieldLine} {given : TypeExpr}
    (typed : line.override? = some given) :
    (decorated type description example? values).refine line =
      decorated given (line.text?.or description) line.example? line.values := by
  rw [refine_eq, typed, Option.elim_some, ← decorated_none, exemplify_decorated, Option.or_none,
    Option.or_none]
  rfl

/-! ## Runs of lines -/

/-- Lines without types keep the type. -/
theorem foldl_refine_of_untyped {lines : List FieldLine}
    (untyped : ∀ line ∈ lines, line.override? = none) :
    lines.foldl refine (decorated type description example? values) =
      decorated type ((FieldLine.last? FieldLine.text? lines).or description)
        ((FieldLine.last? FieldLine.example? lines).or example?)
        ((FieldLine.last? FieldLine.values lines).or values) := by
  induction lines generalizing description example? values with
  | nil => rfl
  | cons line lines induction =>
      rw [List.foldl_cons, refine_decorated_of_untyped _ _ _ _ (untyped line List.mem_cons_self),
        induction _ _ _ fun later member => untyped later (List.mem_cons_of_mem line member)]
      simp only [FieldLine.last?_cons, Option.or_assoc]

/-- Whatever types lines give, the last description counts. -/
theorem foldl_refine_decorated (lines : List FieldLine) :
    ∃ last lastExample? lastValues,
      lines.foldl refine (decorated type description example? values) =
        decorated last ((FieldLine.last? FieldLine.text? lines).or description) lastExample?
          lastValues := by
  induction lines using List.reverseRecOn with
  | nil => exact ⟨type, example?, values, rfl⟩
  | append_singleton lines line induction =>
      -- Type, example and values may change with every line; only the description is followed.
      obtain ⟨last, lastExample?, lastValues, reached⟩ := induction
      rw [List.foldl_append, reached, List.foldl_cons, List.foldl_nil, FieldLine.last?_append,
        FieldLine.last?_cons, FieldLine.last?_nil, Option.none_or, Option.or_assoc]
      cases given : line.override? with
      | none => exact ⟨_, _, _, refine_decorated_of_untyped _ _ _ _ given⟩
      | some type => exact ⟨_, _, _, refine_decorated_of_typed _ _ _ _ given⟩

/-- The last type decides, and what stood before it counts for the description only. -/
theorem foldl_refine_of_typed {line : FieldLine} {given : TypeExpr}
    (typed : line.override? = some given) (before : List FieldLine) {after : List FieldLine}
    (untyped : ∀ later ∈ after, later.override? = none) :
    (before ++ line :: after).foldl refine (decorated type description example? values) =
      decorated given
        ((FieldLine.last? FieldLine.text? (before ++ line :: after)).or description)
        (FieldLine.last? FieldLine.example? (line :: after))
        (FieldLine.last? FieldLine.values (line :: after)) := by
  obtain ⟨last, lastExample?, lastValues, reached⟩ :=
    foldl_refine_decorated type description example? values before
  rw [List.foldl_append, reached, List.foldl_cons, refine_decorated_of_typed _ _ _ _ typed,
    foldl_refine_of_untyped _ _ _ _ untyped]
  simp only [FieldLine.last?_append, FieldLine.last?_cons, Option.or_assoc]

end Lines

end Schema

/-! ## Properties of structs -/

section Structs

open ModelDraft FieldLine

theorem ModelDraft.property_eq (field : FieldDecl) :
    property field = .decorated field.type (nonEmptyText? (prose field.doc)) none none := by
  rw [Schema.decorated_none, property, (Schema.undecorated_ofType field.type).1, Option.none_or]

/-- The lines about the property `name` of a struct: those on its field, then those on the
struct. -/
def FieldDecl.linesAbout (field : FieldDecl) (name : String) (notes : List Annotation) :
    List FieldLine :=
  fieldLines (annotations field.doc) ++ (fieldLines notes).filter fun line => line.name = name

/-- A property is that of its declaration, refined by the lines about it. -/
theorem RecordDecl.at?_draft {record : RecordDecl} {fields : List FieldDecl}
    (distinct : (serializedNames record.serialization fields).Nodup) {field : FieldDecl}
    (member : field ∈ fields) {name : String}
    (named : field.serializedName record.serialization = some name) (notes : List Annotation) :
    Keyed.at? (record.draft fields notes).properties name =
      some ((field.linesAbout name notes).foldl Schema.refine (property field)) := by
  rw [draft, at?_refineAll, at?_foldl_addField distinct member named, Option.map_some,
    FieldDecl.linesAbout, List.foldl_append]

/-- In a struct whose fields have names of their own, a property has the type of the last line about
it that gives one, or else the declared type. Its description is the last one of its lines, or else
the prose of its field. Its example and values are the last ones given with the type or after it; a
reference has none. -/
theorem property_of_model {record : RecordDecl} {fields : List FieldDecl}
    (struct : record.fields = some fields)
    (distinct : (serializedNames record.serialization fields).Nodup) {field : FieldDecl}
    (member : field ∈ fields) {name : String}
    (named : field.serializedName record.serialization = some name) (notes : List Annotation) :
    let lines := field.linesAbout name notes
    let description := (last? text? lines).or (nonEmptyText? (prose field.doc))
    ∃ model properties property, record.model? notes = some model ∧
      model.schema.properties = some properties ∧ Keyed.at? properties name = some property ∧
      (∀ before line after type, lines = before ++ line :: after → line.override? = some type →
        (∀ later ∈ after, later.override? = none) →
        property = .decorated type description (last? FieldLine.example? (line :: after))
          (last? FieldLine.values (line :: after))) ∧
      ((∀ line ∈ lines, line.override? = none) →
        property = .decorated field.type description (last? FieldLine.example? lines)
          (last? FieldLine.values lines)) := by
  intro lines description
  refine ⟨_, _, lines.foldl Schema.refine (property field),
    by rw [RecordDecl.model?_eq, struct, Option.map_some], rfl,
    RecordDecl.at?_draft distinct member named notes, ?_, ?_⟩
  · intro before line after type split typed untyped
    rw [property_eq, split, Schema.foldl_refine_of_typed _ _ _ _ typed before untyped, ← split]
  · intro untyped
    rw [property_eq, Schema.foldl_refine_of_untyped _ _ _ _ untyped, Option.or_none, Option.or_none]

end Structs

/-! ## A property with four lines -/

/-- A field whose own line makes it a reference. -/
def ageField : FieldDecl := ⟨"age", .named "u32", "The age.\n!field other:Pet", {}⟩

/-- A struct with this field and another one. -/
def petRecord : RecordDecl where
  name := "Pet"
  doc := "!model"
  serialization := {}
  fields := some [ageField, ⟨"name", .named "String", "", {}⟩]

/-- An example without a type. -/
def oldLine : FieldLine := ⟨"age", none, "", false, some (.string "old"), none⟩

/-- A type with a description and an example. -/
def yearsLine : FieldLine := ⟨"age", some "int64", "Years.", false, some (.string "7"), none⟩

/-- Values with a type that cannot be read. -/
def valuesLine : FieldLine :=
  ⟨"age", some "", "", false, none, some [.string "7", .string "8"]⟩

/-- The lines on the struct. -/
def petNotes : List Annotation :=
  [.field oldLine, .field yearsLine, .field ⟨"name", some "bool", "", false, none, none⟩,
    .field valuesLine]

/-- The property has the type, the description and the example of the one line, and the values of
the other. -/
theorem property_of_petRecord :
    ∃ model properties, petRecord.model? petNotes = some model ∧
      model.schema.properties = some properties ∧
      Keyed.at? properties "age" = some
        { type := some "integer", format := some "int64", description := some "Years."
          example? := some (.string "7"), values := some [.string "7", .string "8"] } := by
  have struct : petRecord.fields = some (petRecord.fields.getD []) := rfl
  have distinct : (ModelDraft.serializedNames petRecord.serialization
      (petRecord.fields.getD [])).Nodup := by decide
  have named : ageField.serializedName petRecord.serialization = some "age" := rfl
  have own : annotations ageField.doc =
      [.field ⟨"other", some "Pet", "", false, none, none⟩] := by with_unfolding_all rfl
  have lines : ageField.linesAbout "age" petNotes =
      [⟨"other", some "Pet", "", false, none, none⟩, oldLine] ++ yearsLine :: [valuesLine] := by
    rw [FieldDecl.linesAbout, own]
    rfl
  have read : yearsLine.override? = some (.named "int64") := by with_unfolding_all rfl
  have unread : valuesLine.override? = none := by with_unfolding_all rfl
  obtain ⟨model, properties, property, made, listed, found, typed, -⟩ :=
    property_of_model struct distinct List.mem_cons_self named petNotes
  have decided := typed _ _ _ _ lines read fun later member => by
    rwa [List.mem_singleton.1 member]
  rw [lines] at decided
  exact ⟨model, properties, made, listed, found.trans (congrArg some decided)⟩

end DocApi
