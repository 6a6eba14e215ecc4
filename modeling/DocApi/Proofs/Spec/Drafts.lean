import DocApi.Proofs.Keyed
import DocApi.Spec.Model
import Mathlib.Data.List.Nodup

/-!
# Drafts of models

A model grows field by field and is then refined line by line. This file says what each of these
steps does to the names and values of the properties, to the required names and to the names with an
example, and from that what a run of such steps does.
-/

namespace DocApi

namespace ModelDraft

/-! ## One step -/

@[simp] theorem properties_markRequired (draft : ModelDraft) (name : String) :
    (draft.markRequired name).properties = draft.properties := by
  rw [markRequired]
  split <;> rfl

@[simp] theorem examples_markRequired (draft : ModelDraft) (name : String) :
    (draft.markRequired name).examples = draft.examples := by
  rw [markRequired]
  split <;> rfl

theorem mem_required_markRequired (draft : ModelDraft) (marked name : String) :
    name ∈ (draft.markRequired marked).required ↔ name ∈ draft.required ∨ name = marked := by
  rw [markRequired]
  split
  · rename_i listed
    have listed : marked ∈ draft.required := by simpa using listed
    constructor
    · exact Or.inl
    · rintro (member | rfl)
      · exact member
      · exact listed
  · simp

theorem nodup_required_markRequired {draft : ModelDraft} (once : draft.required.Nodup)
    (name : String) : (draft.markRequired name).required.Nodup := by
  rw [markRequired]
  split
  · exact once
  · rename_i fresh
    have fresh : name ∉ draft.required := by simpa using fresh
    simpa using List.Nodup.concat fresh once

theorem properties_addProperty (draft : ModelDraft) (name : String) (field : FieldDecl) :
    (draft.addProperty name field).properties =
      Keyed.put draft.properties name (property field) := by
  rw [addProperty]
  split <;> simp

@[simp] theorem examples_addProperty (draft : ModelDraft) (name : String) (field : FieldDecl) :
    (draft.addProperty name field).examples = draft.examples := by
  rw [addProperty]
  split <;> simp

theorem mem_required_addProperty (draft : ModelDraft) (added name : String) (field : FieldDecl) :
    name ∈ (draft.addProperty added field).required ↔
      name ∈ draft.required ∨ name = added ∧ field.serialization.omitEmpty = false := by
  rw [addProperty]
  cases field.serialization.omitEmpty <;> simp [mem_required_markRequired]

theorem nodup_required_addProperty {draft : ModelDraft} (once : draft.required.Nodup)
    (name : String) (field : FieldDecl) : (draft.addProperty name field).required.Nodup := by
  rw [addProperty]
  cases field.serialization.omitEmpty
  · exact nodup_required_markRequired once name
  · exact once

theorem at?_addProperty (draft : ModelDraft) (added name : String) (field : FieldDecl) :
    Keyed.at? (draft.addProperty added field).properties name =
      if name = added then some (property field) else Keyed.at? draft.properties name := by
  rw [properties_addProperty, Keyed.at?_put]

/-- A line about a name without a property changes nothing. -/
theorem refine_of_not_mem {draft : ModelDraft} {name : String}
    (absent : name ∉ Keyed.keys draft.properties) (line : FieldLine) :
    draft.refine name line = draft := by
  rw [ModelDraft.refine, if_neg (by simpa using absent)]

theorem properties_refine (draft : ModelDraft) (name : String) (line : FieldLine) :
    (draft.refine name line).properties = Keyed.adjust draft.properties name (·.refine line) := by
  by_cases known : name ∈ Keyed.keys draft.properties
  · rw [ModelDraft.refine, if_pos (by simpa using known)]
    cases line.required <;> simp
  · have nothing : Keyed.at? draft.properties name = none := (Keyed.at?_eq_none_iff _ _).2 known
    rw [refine_of_not_mem known,
      Keyed.adjust_eq_self fun value found => by rw [nothing] at found; cases found]

@[simp] theorem keys_refine (draft : ModelDraft) (name : String) (line : FieldLine) :
    Keyed.keys (draft.refine name line).properties = Keyed.keys draft.properties := by
  rw [properties_refine, Keyed.keys_adjust]

theorem at?_refine (draft : ModelDraft) (refined name : String) (line : FieldLine) :
    Keyed.at? (draft.refine refined line).properties name =
      if name = refined then (Keyed.at? draft.properties name).map (·.refine line)
      else Keyed.at? draft.properties name := by
  rw [properties_refine, Keyed.at?_adjust]

theorem mem_required_refine (draft : ModelDraft) (refined name : String) (line : FieldLine) :
    name ∈ (draft.refine refined line).required ↔
      name ∈ draft.required ∨
        name ∈ Keyed.keys draft.properties ∧ refined = name ∧ line.required = true := by
  by_cases known : refined ∈ Keyed.keys draft.properties
  · rw [ModelDraft.refine, if_pos (by simpa using known)]
    cases line.required
    · simp
    · have same : name ∈ Keyed.keys draft.properties ∧ refined = name ↔ name = refined :=
        ⟨fun both => both.2.symm, fun equality => ⟨equality ▸ known, equality.symm⟩⟩
      simp [mem_required_markRequired, same]
  · have other : ¬(name ∈ Keyed.keys draft.properties ∧ refined = name ∧ line.required = true) := by
      rintro ⟨member, rfl, -⟩
      exact known member
    simp [refine_of_not_mem known, other]

theorem nodup_required_refine {draft : ModelDraft} (once : draft.required.Nodup) (name : String)
    (line : FieldLine) : (draft.refine name line).required.Nodup := by
  by_cases known : name ∈ Keyed.keys draft.properties
  · rw [ModelDraft.refine, if_pos (by simpa using known)]
    dsimp only
    split
    · apply nodup_required_markRequired
      exact once
    · exact once
  · rwa [refine_of_not_mem known]

theorem examples_refine {draft : ModelDraft} {name : String}
    (known : name ∈ Keyed.keys draft.properties) (line : FieldLine) :
    (draft.refine name line).examples =
      line.example?.elim draft.examples (Keyed.put draft.examples name) := by
  rw [ModelDraft.refine, if_pos (by simpa using known)]
  cases line.required <;> cases line.example? <;> simp

/-- Only a property gets an example. -/
theorem mem_keys_examples_refine {draft : ModelDraft} {refined name : String} {line : FieldLine}
    (member : name ∈ Keyed.keys (draft.refine refined line).examples) :
    name ∈ Keyed.keys draft.examples ∨ name ∈ Keyed.keys draft.properties := by
  by_cases known : refined ∈ Keyed.keys draft.properties
  · rw [examples_refine known] at member
    cases given : line.example? with
    | none => exact Or.inl (by simpa [given] using member)
    | some value =>
        rw [given, Option.elim_some, Keyed.mem_keys_put] at member
        rcases member with kept | rfl
        · exact Or.inl kept
        · exact Or.inr known
  · rw [refine_of_not_mem known] at member
    exact Or.inl member

/-- Whether no name is required twice and only properties have an example. -/
structure Tidy (draft : ModelDraft) : Prop where
  once : draft.required.Nodup
  examples : ∀ name ∈ Keyed.keys draft.examples, name ∈ Keyed.keys draft.properties

theorem Tidy.addProperty {draft : ModelDraft} (tidy : draft.Tidy) (name : String)
    (field : FieldDecl) : (draft.addProperty name field).Tidy where
  once := nodup_required_addProperty tidy.once name field
  examples other member := by
    rw [examples_addProperty] at member
    rw [properties_addProperty, Keyed.mem_keys_put]
    exact Or.inl (tidy.examples other member)

theorem Tidy.refine {draft : ModelDraft} (tidy : draft.Tidy) (name : String) (line : FieldLine) :
    (draft.refine name line).Tidy where
  once := nodup_required_refine tidy.once name line
  examples other member := by
    rw [keys_refine]
    exact (mem_keys_examples_refine member).elim (tidy.examples other) id

/-! ## Runs of lines -/

/-- Refines properties by one line after the other; `label` gives the property that a line is
about. -/
def refineAll (label : FieldLine → String) (draft : ModelDraft) (lines : List FieldLine) :
    ModelDraft :=
  lines.foldl (fun draft line => draft.refine (label line) line) draft

section Lines

variable (label : FieldLine → String) (draft : ModelDraft) (lines : List FieldLine)

theorem refineAll_cons (line : FieldLine) :
    draft.refineAll label (line :: lines) =
      (draft.refine (label line) line).refineAll label lines :=
  rfl

theorem refineAll_append (more : List FieldLine) :
    draft.refineAll label (lines ++ more) = (draft.refineAll label lines).refineAll label more :=
  List.foldl_append

@[simp] theorem keys_refineAll :
    Keyed.keys (draft.refineAll label lines).properties = Keyed.keys draft.properties := by
  induction lines generalizing draft with
  | nil => rfl
  | cons line lines induction => exact (induction _).trans (keys_refine draft _ line)

/-- A property is refined by the lines about it, in their order. -/
theorem at?_refineAll (name : String) :
    Keyed.at? (draft.refineAll label lines).properties name =
      (Keyed.at? draft.properties name).map fun schema =>
        (lines.filter fun line => label line = name).foldl Schema.refine schema := by
  induction lines generalizing draft with
  | nil => simp [refineAll]
  | cons line lines induction =>
      refine (induction (draft.refine (label line) line)).trans ?_
      rw [at?_refine]
      by_cases own : label line = name
      · cases found : Keyed.at? draft.properties name <;> simp [own]
      · simp [own, Ne.symm own]

theorem mem_required_refineAll (name : String) :
    name ∈ (draft.refineAll label lines).required ↔
      name ∈ draft.required ∨
        name ∈ Keyed.keys draft.properties ∧
          ∃ line ∈ lines, label line = name ∧ line.required = true := by
  induction lines generalizing draft with
  | nil => simp [refineAll]
  | cons line lines induction =>
      refine (induction (draft.refine (label line) line)).trans ?_
      rw [keys_refine, mem_required_refine, or_assoc, ← and_or_left]
      simp

theorem Tidy.refineAll {draft : ModelDraft} (tidy : draft.Tidy) :
    (draft.refineAll label lines).Tidy :=
  List.foldlRecOn lines _ tidy fun _ tidy line _ => tidy.refine _ line

end Lines

/-! ## Runs of fields -/

/-- The names under which fields are exchanged, without the fields that are left out. -/
def serializedNames (record : Source.Serialization) (fields : List FieldDecl) : List String :=
  fields.filterMap fun field => field.serializedName record

theorem serializedNames_append (record : Source.Serialization) (left right : List FieldDecl) :
    serializedNames record (left ++ right) =
      serializedNames record left ++ serializedNames record right :=
  List.filterMap_append

theorem mem_serializedNames {record : Source.Serialization} {fields : List FieldDecl}
    {name : String} :
    name ∈ serializedNames record fields ↔
      ∃ field ∈ fields, field.serializedName record = some name :=
  List.mem_filterMap

section Fields

variable {record : Source.Serialization} {field : FieldDecl} {name : String}

theorem addField_of_skipped (skipped : field.serializedName record = none) (draft : ModelDraft) :
    draft.addField record field = draft := by
  rw [addField, skipped]

theorem addField_of_named (named : field.serializedName record = some name)
    (draft : ModelDraft) :
    draft.addField record field =
      (draft.addProperty name field).refineAll (fun _ => name)
        (fieldLines (annotations field.doc)) := by
  rw [addField, named]
  rfl

/-- A field makes its name required if it is always there or if one of its own lines says so. -/
theorem mem_required_addField (draft : ModelDraft) :
    name ∈ (draft.addField record field).required ↔
      name ∈ draft.required ∨
        field.serializedName record = some name ∧
          (field.serialization.omitEmpty = false ∨
            ∃ line ∈ fieldLines (annotations field.doc), line.required = true) := by
  cases named : field.serializedName record with
  | none => simp [addField_of_skipped named]
  | some own =>
      rw [addField_of_named named, mem_required_refineAll, mem_required_addProperty,
        properties_addProperty, Keyed.mem_keys_put, or_assoc]
      by_cases same : own = name
      · simp [same]
      · simp [same, Ne.symm same]

theorem Tidy.addField {draft : ModelDraft} (tidy : draft.Tidy) (record : Source.Serialization)
    (field : FieldDecl) : (draft.addField record field).Tidy := by
  cases named : field.serializedName record with
  | none => rwa [addField_of_skipped named]
  | some name =>
      rw [addField_of_named named]
      exact (tidy.addProperty name field).refineAll _ _

/-- The properties stand in the order of the first fields with their names. -/
theorem keys_foldl_addField (record : Source.Serialization) (fields : List FieldDecl) :
    Keyed.keys (fields.foldl (addField record) {}).properties =
      (serializedNames record fields).eraseDups := by
  induction fields using List.reverseRecOn with
  | nil => rfl
  | append_singleton fields field induction =>
      rw [List.foldl_append, List.foldl_cons, List.foldl_nil, serializedNames_append]
      cases named : field.serializedName record with
      | none => simp [addField_of_skipped named, serializedNames, named, induction]
      | some name =>
          have last : serializedNames record [field] = [name] := by simp [serializedNames, named]
          rw [addField_of_named named, keys_refineAll, properties_addProperty, Keyed.keys_put,
            induction, last, Keyed.eraseDups_concat]
          simp

theorem mem_required_foldl_addField (draft : ModelDraft) (fields : List FieldDecl) :
    name ∈ (fields.foldl (addField record) draft).required ↔
      name ∈ draft.required ∨
        ∃ field ∈ fields, field.serializedName record = some name ∧
          (field.serialization.omitEmpty = false ∨
            ∃ line ∈ fieldLines (annotations field.doc), line.required = true) := by
  induction fields generalizing draft with
  | nil => simp
  | cons field fields induction =>
      rw [List.foldl_cons, induction, mem_required_addField, or_assoc]
      simp

theorem tidy_foldl_addField (record : Source.Serialization) (fields : List FieldDecl) :
    (fields.foldl (addField record) {}).Tidy :=
  List.foldlRecOn fields _ ⟨.nil, by simp⟩ fun _ tidy field _ => tidy.addField record field

/-- A field under another name leaves a property alone. -/
theorem at?_addField_of_ne (other : field.serializedName record ≠ some name)
    (draft : ModelDraft) :
    Keyed.at? (draft.addField record field).properties name =
      Keyed.at? draft.properties name := by
  cases named : field.serializedName record with
  | none => rw [addField_of_skipped named]
  | some own =>
      have different : name ≠ own := by
        rintro rfl
        exact other named
      rw [addField_of_named named, at?_refineAll, at?_addProperty, if_neg different]
      cases found : Keyed.at? draft.properties name <;> simp [Ne.symm different]

theorem at?_addField (named : field.serializedName record = some name) (draft : ModelDraft) :
    Keyed.at? (draft.addField record field).properties name =
      some ((fieldLines (annotations field.doc)).foldl Schema.refine (property field)) := by
  rw [addField_of_named named, at?_refineAll, at?_addProperty, if_pos rfl]
  simp

/-- When no two fields share a name, none before or after a field has its name. -/
theorem serializedName_ne_of_nodup {before after : List FieldDecl}
    (distinct : (serializedNames record (before ++ field :: after)).Nodup)
    (named : field.serializedName record = some name) :
    ∀ other ∈ before ++ after, other.serializedName record ≠ some name := by
  have own : serializedNames record (field :: after) = name :: serializedNames record after := by
    simp [serializedNames, named]
  rw [serializedNames_append, own, List.nodup_middle, List.nodup_cons,
    ← serializedNames_append] at distinct
  intro other member same
  exact distinct.1 (mem_serializedNames.2 ⟨other, member, same⟩)

/-- When no two fields share a name, each field gives its property. -/
theorem at?_foldl_addField {fields : List FieldDecl}
    (distinct : (serializedNames record fields).Nodup) (member : field ∈ fields)
    (named : field.serializedName record = some name) :
    Keyed.at? (fields.foldl (addField record) {}).properties name =
      some ((fieldLines (annotations field.doc)).foldl Schema.refine (property field)) := by
  obtain ⟨before, after, rfl⟩ := List.append_of_mem member
  have others := serializedName_ne_of_nodup distinct named
  rw [List.foldl_append, List.foldl_cons]
  refine List.foldlRecOn
    (motive := fun draft : ModelDraft => Keyed.at? draft.properties name =
      some ((fieldLines (annotations field.doc)).foldl Schema.refine (property field)))
    after _ (at?_addField named _) ?_
  intro draft kept other inAfter
  rw [at?_addField_of_ne (others other (List.mem_append_right before inAfter)), kept]

end Fields

end ModelDraft

/-! ## The model of a struct -/

namespace RecordDecl

open ModelDraft

/-- The draft of a struct after its fields and the lines on the struct. -/
def draft (record : RecordDecl) (fields : List FieldDecl) (notes : List Annotation) : ModelDraft :=
  (fields.foldl (addField record.serialization) {}).refineAll FieldLine.name (fieldLines notes)

theorem model?_eq (record : RecordDecl) (notes : List Annotation) :
    record.model? notes = record.fields.map fun fields =>
      { name := record.name
        description := modelDescription record.doc notes
        schema := {
          type := some "object"
          description := nonEmptyText? (modelDescription record.doc notes)
          properties := some (record.draft fields notes).properties
          required := (record.draft fields notes).required }
        examples := (record.draft fields notes).examples } := rfl

end RecordDecl

end DocApi
