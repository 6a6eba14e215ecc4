import DocApi.Proofs.Spec.ModelNames
import DocApi.Proofs.Spec.ModelProperties

/-!
# The examples of a model

The example of a line goes to two places, the property and the examples of the model. The examples
keep the last one of the lines about a property. The property itself loses its example to the next
line that gives it a type. So an inline property carries the recorded example exactly if no line
gives a type after the last example.
-/

namespace DocApi

/-! ## Examples along a run of lines -/

namespace FieldLine

/-- Whether a line gives a type while neither it nor a later line gives an example. -/
def Retyped (lines : List FieldLine) : Prop :=
  ∃ after, after <:+ lines ∧ (∃ line ∈ after, line.override? ≠ none) ∧
    ∀ line ∈ after, line.example? = none

theorem not_retyped_nil : ¬Retyped [] := by
  rintro ⟨after, ending, ⟨line, member, -⟩, -⟩
  rw [List.suffix_nil.1 ending] at member
  exact List.not_mem_nil member

theorem retyped_concat (lines : List FieldLine) (line : FieldLine) :
    Retyped (lines ++ [line]) ↔
      line.example? = none ∧ (line.override? ≠ none ∨ Retyped lines) := by
  constructor
  · rintro ⟨after, ending, ⟨typed, member, given⟩, silent⟩
    obtain rfl | ⟨earlier, rfl, earlierEnding⟩ := List.suffix_concat_iff.1 ending
    · exact absurd member List.not_mem_nil
    · refine ⟨silent line (by simp), ?_⟩
      rcases List.mem_append.1 member with inEarlier | last
      · exact Or.inr ⟨earlier, earlierEnding, ⟨typed, inEarlier, given⟩,
          fun other inside => silent other (List.mem_append_left _ inside)⟩
      · rw [List.mem_singleton.1 last] at given
        exact Or.inl given
  · rintro ⟨silent, given | ⟨after, ending, ⟨typed, member, given⟩, others⟩⟩
    · exact ⟨[line], List.suffix_append lines [line], ⟨line, List.mem_singleton_self line, given⟩,
        by simpa using silent⟩
    · refine ⟨after ++ [line], List.suffix_concat_iff.2 (Or.inr ⟨after, rfl, ending⟩),
        ⟨typed, List.mem_append_left _ member, given⟩, ?_⟩
      intro other inside
      rcases List.mem_append.1 inside with inAfter | last
      · exact others other inAfter
      · rwa [List.mem_singleton.1 last]

end FieldLine

/-- The example that is left after a run of lines is the last one, unless a type came after it. -/
theorem Schema.foldl_refine_example (type : TypeExpr) (description : Option String)
    (lines : List FieldLine) :
    ∃ last text left values,
      lines.foldl refine (decorated type description none none) =
        decorated last text left values ∧
      (FieldLine.Retyped lines → left = none) ∧
      (¬FieldLine.Retyped lines → left = FieldLine.last? FieldLine.example? lines) := by
  induction lines using List.reverseRecOn with
  | nil =>
      exact ⟨type, description, none, none, rfl,
        fun retyped => absurd retyped FieldLine.not_retyped_nil, fun _ => rfl⟩
  | append_singleton lines line induction =>
      obtain ⟨last, text, left, values, reached, lost, kept⟩ := induction
      rw [List.foldl_append, reached, List.foldl_cons, List.foldl_nil, FieldLine.retyped_concat,
        FieldLine.last?_append, FieldLine.last?_cons, FieldLine.last?_nil, Option.none_or]
      cases given : line.override? with
      | none =>
          refine ⟨_, _, _, _, refine_decorated_of_untyped _ _ _ _ given, ?_, ?_⟩
          · rintro ⟨silent, typed | retyped⟩
            · exact absurd rfl typed
            · rw [silent, Option.none_or, lost retyped]
          · intro steady
            cases own : line.example? with
            | some value => rfl
            | none =>
                have before : ¬FieldLine.Retyped lines := fun retyped =>
                  steady ⟨own, Or.inr retyped⟩
                rw [Option.none_or, Option.none_or, kept before]
      | some type =>
          refine ⟨_, _, _, _, refine_decorated_of_typed _ _ _ _ given, And.left, ?_⟩
          intro steady
          cases own : line.example? with
          | some value => rfl
          | none => exact absurd ⟨own, Or.inl (Option.some_ne_none type)⟩ steady

/-! ## The examples of a draft -/

namespace ModelDraft

open FieldLine

theorem at?_examples_refine (draft : ModelDraft) (refined name : String) (line : FieldLine) :
    Keyed.at? (draft.refine refined line).examples name =
      if refined = name ∧ name ∈ Keyed.keys draft.properties then
        line.example?.or (Keyed.at? draft.examples name)
      else Keyed.at? draft.examples name := by
  by_cases known : refined ∈ Keyed.keys draft.properties
  · rw [examples_refine known]
    cases line.example? with
    | none => simp
    | some value =>
        rw [Option.elim_some, Keyed.at?_put]
        by_cases same : refined = name
        · simp [same, same ▸ known]
        · simp [same, Ne.symm same]
  · rw [refine_of_not_mem known, if_neg]
    rintro ⟨rfl, member⟩
    exact known member

/-- Of the lines about a property, the last example counts. -/
theorem at?_examples_refineAll (label : FieldLine → String) (draft : ModelDraft)
    (lines : List FieldLine) (name : String) :
    Keyed.at? (draft.refineAll label lines).examples name =
      if name ∈ Keyed.keys draft.properties then
        (last? FieldLine.example? (lines.filter fun line => label line = name)).or
          (Keyed.at? draft.examples name)
      else Keyed.at? draft.examples name := by
  induction lines generalizing draft with
  | nil => simp [refineAll]
  | cons line lines induction =>
      rw [refineAll_cons, induction, keys_refine, at?_examples_refine]
      by_cases known : name ∈ Keyed.keys draft.properties
      · by_cases own : label line = name <;> simp [known, own, last?_cons, Option.or_assoc]
      · simp [known]

section Fields

variable {record : Source.Serialization} {field : FieldDecl} {name : String}

theorem at?_examples_addField_of_ne (other : field.serializedName record ≠ some name)
    (draft : ModelDraft) :
    Keyed.at? (draft.addField record field).examples name = Keyed.at? draft.examples name := by
  cases named : field.serializedName record with
  | none => rw [addField_of_skipped named]
  | some own =>
      have different : own ≠ name := by
        rintro rfl
        exact other named
      rw [addField_of_named named, at?_examples_refineAll, examples_addProperty]
      simp [different]

theorem at?_examples_addField (named : field.serializedName record = some name)
    (draft : ModelDraft) :
    Keyed.at? (draft.addField record field).examples name =
      (last? FieldLine.example? (fieldLines (annotations field.doc))).or
        (Keyed.at? draft.examples name) := by
  rw [addField_of_named named, at?_examples_refineAll, properties_addProperty,
    if_pos ((Keyed.mem_keys_put _ _ _ _).2 (Or.inr rfl)), examples_addProperty]
  simp

/-- When no two fields share a name, the example of a name comes from the lines on its field. -/
theorem at?_examples_foldl_addField {fields : List FieldDecl}
    (distinct : (serializedNames record fields).Nodup) (member : field ∈ fields)
    (named : field.serializedName record = some name) :
    Keyed.at? (fields.foldl (addField record) {}).examples name =
      last? FieldLine.example? (fieldLines (annotations field.doc)) := by
  obtain ⟨before, after, rfl⟩ := List.append_of_mem member
  have others := serializedName_ne_of_nodup distinct named
  -- A run of fields with other names leaves the example of this name alone.
  have unmoved : ∀ run : List FieldDecl, (∀ other ∈ run, other ∈ before ++ after) →
      ∀ draft, Keyed.at? (run.foldl (addField record) draft).examples name =
        Keyed.at? draft.examples name := fun run inside draft =>
    List.foldlRecOn
      (motive := fun next : ModelDraft =>
        Keyed.at? next.examples name = Keyed.at? draft.examples name)
      run _ rfl fun next kept other inRun => by
        rw [at?_examples_addField_of_ne (others other (inside other inRun)), kept]
  rw [List.foldl_append, List.foldl_cons,
    unmoved after fun _ => List.mem_append_right before,
    at?_examples_addField named, unmoved before fun _ => List.mem_append_left after]
  exact Option.or_none

end Fields

end ModelDraft

/-! ## The two places of an example -/

section Structs

open ModelDraft FieldLine

/-- The examples of a struct keep the last example of the lines about a property. -/
theorem RecordDecl.at?_examples_draft {record : RecordDecl} {fields : List FieldDecl}
    (distinct : (serializedNames record.serialization fields).Nodup) {field : FieldDecl}
    (member : field ∈ fields) {name : String}
    (named : field.serializedName record.serialization = some name) (notes : List Annotation) :
    Keyed.at? (record.draft fields notes).examples name =
      last? FieldLine.example? (field.linesAbout name notes) := by
  have known : name ∈ Keyed.keys (fields.foldl (addField record.serialization) {}).properties := by
    rw [keys_foldl_addField, List.mem_eraseDups]
    exact mem_serializedNames.2 ⟨field, member, named⟩
  rw [draft, at?_examples_refineAll, if_pos known,
    at?_examples_foldl_addField distinct member named, FieldDecl.linesAbout, last?_append]

/-- Only the name of a field has an example. -/
theorem RecordDecl.exists_field_of_examples {record : RecordDecl} {fields : List FieldDecl}
    {notes : List Annotation} {name : String} {value : Json}
    (recorded : Keyed.at? (record.draft fields notes).examples name = some value) :
    ∃ field ∈ fields, field.serializedName record.serialization = some name := by
  have tidy : (record.draft fields notes).Tidy :=
    (tidy_foldl_addField record.serialization fields).refineAll _ _
  have listed : name ∈ Keyed.keys (record.draft fields notes).examples := by
    by_contra absent
    rw [(Keyed.at?_eq_none_iff _ _).2 absent] at recorded
    cases recorded
  have known := tidy.examples name listed
  rw [keys_draft, List.mem_eraseDups] at known
  exact mem_serializedNames.1 known

/-- In a struct whose fields have names of their own, the recorded example of a property is the last
one of the lines about it. If the property is no reference, then it carries this example too, except
where a line gives it a type while neither that line nor a later one gives an example: there the
property has none. -/
theorem example_of_model {record : RecordDecl} {fields : List FieldDecl}
    (struct : record.fields = some fields)
    (distinct : (serializedNames record.serialization fields).Nodup) {notes : List Annotation}
    {model : NamedSchema} (made : record.model? notes = some model) {name : String} {value : Json}
    (recorded : Keyed.at? model.examples name = some value) :
    ∃ field ∈ fields, field.serializedName record.serialization = some name ∧
      last? FieldLine.example? (field.linesAbout name notes) = some value ∧
      ∃ properties property, model.schema.properties = some properties ∧
        Keyed.at? properties name = some property ∧
        (property.isReference = false →
          (¬Retyped (field.linesAbout name notes) → property.example? = some value) ∧
          (Retyped (field.linesAbout name notes) → property.example? = none)) := by
  rw [RecordDecl.model?_eq, struct, Option.map_some, Option.some_inj] at made
  subst made
  obtain ⟨field, member, named⟩ := RecordDecl.exists_field_of_examples recorded
  have last : last? FieldLine.example? (field.linesAbout name notes) = some value := by
    rw [← RecordDecl.at?_examples_draft distinct member named]
    exact recorded
  refine ⟨field, member, named, last, _, _, rfl,
    RecordDecl.at?_draft distinct member named notes, ?_⟩
  obtain ⟨type, text, left, values, reached, lost, kept⟩ := Schema.foldl_refine_example field.type
    (nonEmptyText? (prose field.doc)) (field.linesAbout name notes)
  rw [property_eq, reached]
  intro inline
  have plain : (Schema.ofType type).isReference = false := inline
  have shown : (Schema.decorated type text left values).example? = left := by
    rw [Schema.decorated, plain]
    rfl
  rw [shown]
  exact ⟨fun steady => (kept steady).trans last, lost⟩

end Structs

/-! ## A type after an example -/

/-- A struct with two fields. -/
def dogRecord : RecordDecl where
  name := "Dog"
  doc := ""
  serialization := {}
  fields := some [⟨"age", .named "u32", "", {}⟩, ⟨"name", .named "String", "", {}⟩]

/-- An example without a type. -/
def sevenLine : FieldLine := ⟨"age", none, "", false, some (.ofNat 7), none⟩

/-- A type without an example. -/
def longAgeLine : FieldLine := ⟨"age", some "int64", "", false, none, none⟩

/-- A type with an example. -/
def dogNameLine : FieldLine := ⟨"name", some "string", "", false, some (.string "Rex"), none⟩

/-- An example of the one property and then its type, and both at once for the other. -/
def dogNotes : List Annotation :=
  [.field sevenLine, .field longAgeLine, .field dogNameLine]

/-- The model of the struct. -/
def dogModel : NamedSchema where
  name := "Dog"
  description := ""
  schema := {
    type := some "object"
    properties := some
      [("age", { type := some "integer", format := some "int64" }),
        ("name", { type := some "string", example? := some (.string "Rex") })]
    required := ["age", "name"] }
  examples := [("age", .ofNat 7), ("name", .string "Rex")]

theorem model?_dogRecord : dogRecord.model? dogNotes = some dogModel := by with_unfolding_all rfl

/-- Both examples are recorded; the property that gets its type later has lost its own. -/
theorem example_of_dogModel :
    Keyed.at? dogModel.examples "age" = some (.ofNat 7) ∧
      Keyed.at? dogModel.examples "name" = some (.string "Rex") ∧
      ∃ properties age name, dogModel.schema.properties = some properties ∧
        Keyed.at? properties "age" = some age ∧ age.isReference = false ∧ age.example? = none ∧
        Keyed.at? properties "name" = some name ∧ name.example? = some (.string "Rex") := by
  have struct : dogRecord.fields = some (dogRecord.fields.getD []) := rfl
  have distinct : (ModelDraft.serializedNames dogRecord.serialization
      (dogRecord.fields.getD [])).Nodup := by decide
  have silent : ∀ field ∈ dogRecord.fields.getD [], annotations field.doc = [] := by
    intro field member
    obtain rfl | rfl : field = _ ∨ field = _ := by simpa [dogRecord] using member
    · rfl
    · rfl
  have recordedAge : Keyed.at? dogModel.examples "age" = some (.ofNat 7) := rfl
  have recordedName : Keyed.at? dogModel.examples "name" = some (.string "Rex") := rfl
  obtain ⟨ageField, inFields, -, -, properties, age, listed, foundAge, decidedAge⟩ :=
    example_of_model struct distinct model?_dogRecord recordedAge
  obtain ⟨nameField, inFieldsToo, -, -, _, name, listedToo, foundName, decidedName⟩ :=
    example_of_model struct distinct model?_dogRecord recordedName
  cases listed
  cases listedToo
  cases foundAge
  cases foundName
  have given : longAgeLine.override? = some (.named "int64") := by with_unfolding_all rfl
  have retyped : FieldLine.Retyped (ageField.linesAbout "age" dogNotes) := by
    rw [FieldDecl.linesAbout, silent ageField inFields]
    exact ⟨[longAgeLine], ⟨[sevenLine], rfl⟩,
      ⟨longAgeLine, List.mem_singleton_self _, by simp [given]⟩, by simp [longAgeLine]⟩
  have steady : ¬FieldLine.Retyped (nameField.linesAbout "name" dogNotes) := by
    rw [FieldDecl.linesAbout, silent nameField inFieldsToo]
    intro retyped
    cases ((FieldLine.retyped_concat [] dogNameLine).1 retyped).1
  exact ⟨recordedAge, recordedName, _, _, _, rfl, rfl, rfl, (decidedAge rfl).2 retyped, rfl,
    (decidedName rfl).1 steady⟩

end DocApi
