import DocApi.Proofs.Schema.WellFormed
import DocApi.Source.Declarations

/-!
# Schemas of types

No identifier of a source text is empty, so the types that are declared in it name nothing by the
empty name, and neither do the type words of annotations. The schemas of such types are
well-formed.
-/

namespace DocApi

open Source

/-- An identifier is written with at least one character. -/
theorem Source.Ident.spelling_ne_empty (ident : Ident) : ident.spelling ≠ "" := by
  rw [Ident.spelling]
  split
  · intro empty
    exact ident.nonempty (String.append_eq_empty_iff.1 empty).2
  · exact ident.nonempty

namespace TypeExpr

/-! ## Paths with known names -/

theorem ofPath_of_wrapper {name : String} (known : name ∈ wrapperNames)
    (qualifier : List String) (arguments : List TypeExpr) :
    ofPath qualifier name arguments = arguments.headD .unsupported := by
  have others : ∀ name ∈ wrapperNames, name ≠ "Option" := by decide
  simp [ofPath, others name known, known]

theorem ofPath_of_sequence {name : String} (known : name ∈ sequenceNames)
    (qualifier : List String) (arguments : List TypeExpr) :
    ofPath qualifier name arguments = .sequence (arguments.headD .unsupported) := by
  have others : ∀ name ∈ sequenceNames, name ≠ "Option" ∧ name ∉ wrapperNames := by decide
  simp [ofPath, others name known, known]

theorem ofPath_of_map {name : String} (known : name ∈ mapNames)
    (qualifier : List String) (arguments : List TypeExpr) :
    ofPath qualifier name arguments = .map (arguments[1]?.getD .unsupported) := by
  have others : ∀ name ∈ mapNames, name ≠ "Option" ∧ name ∉ wrapperNames ∧
      name ∉ sequenceNames := by
    decide
  simp [ofPath, others name known, known]

/-! ## Names in types -/

/-- Whether every name in a type has a character. -/
def WellNamed : TypeExpr → Prop
  | .named name => name ≠ ""
  | .optional inner => inner.WellNamed
  | .sequence element => element.WellNamed
  | .map value => value.WellNamed
  | .foreign _ _ => True
  | .unsupported => True

theorem wellNamed_headD {arguments : List TypeExpr}
    (named : ∀ argument ∈ arguments, argument.WellNamed) :
    (arguments.headD .unsupported).WellNamed := by
  cases arguments with
  | nil => trivial
  | cons first rest => exact named first List.mem_cons_self

theorem wellNamed_ofPath (qualifier : List String) {name : String} {arguments : List TypeExpr}
    (nonempty : name ≠ "") (named : ∀ argument ∈ arguments, argument.WellNamed) :
    (ofPath qualifier name arguments).WellNamed := by
  unfold ofPath
  split
  · cases arguments with
    | nil => trivial
    | cons inner rest => exact named inner List.mem_cons_self
  · split
    · exact wellNamed_headD named
    · split
      · exact wellNamed_headD named
      · split
        · cases second : arguments[1]? with
          | none => trivial
          | some value => exact named value (List.mem_of_getElem? second)
        · cases qualifier with
          | nil => exact nonempty
          | cons root rest =>
              dsimp only
              split
              · exact nonempty
              · trivial

mutual

/-- A declared type names nothing by the empty name. -/
theorem wellNamed_ofTy : (type : Ty) → (ofTy type).WellNamed
  | .path qualifier name arguments => by
      rw [ofTy]
      exact wellNamed_ofPath _ name.spelling_ne_empty (wellNamed_ofTys arguments)
  | .reference target => by
      rw [ofTy]
      exact wellNamed_ofTy target
  | .parenthesized inner => by
      rw [ofTy]
      exact wellNamed_ofTy inner
  | .array element => by
      rw [ofTy]
      exact wellNamed_ofTy element
  | .slice element => by
      rw [ofTy]
      exact wellNamed_ofTy element
  | .other => by
      rw [ofTy]
      trivial

theorem wellNamed_ofTys : (types : List Ty) → ∀ type ∈ ofTys types, type.WellNamed
  | [] => by simp [ofTys]
  | type :: types => by
      rw [ofTys]
      intro found member
      rcases List.mem_cons.1 member with rfl | member
      · exact wellNamed_ofTy type
      · exact wellNamed_ofTys types found member

end

theorem wellNamed_ofPlainWord (word : List Char) : (ofPlainWord word).WellNamed := by
  rw [ofPlainWord]
  split
  · trivial
  · rename_i nonempty
    split
    · split
      · exact wellNamed_ofTy _
      · trivial
    · intro empty
      exact nonempty (List.isEmpty_iff.2 (String.ofList_eq_empty_iff.1 empty))

/-- A type word names nothing by the empty name. -/
theorem wellNamed_ofWord (word : List Char) : (ofWord word).WellNamed := by
  fun_induction ofWord word with
  | case1 word inner marked induction => exact induction
  | case2 word unmarked inner maybe induction => exact induction
  | case3 word unmarked plain => exact wellNamed_ofPlainWord (trim word)

end TypeExpr

namespace Declarations

/-! ## Names in declarations -/

/-- Whether the types of all fields are well named. -/
def WellNamed (file : Declarations) : Prop :=
  ∀ record ∈ file.records, ∀ fields, record.fields = some fields →
    ∀ field ∈ fields, field.type.WellNamed

theorem WellNamed.append {first second : Declarations} (left : first.WellNamed)
    (right : second.WellNamed) : (first ++ second).WellNamed := by
  intro record member
  rcases List.mem_append.1 member with member | member
  · exact left record member
  · exact right record member

/-- Declarations without records are well named. -/
theorem wellNamed_of_records_eq_nil {file : Declarations} (none : file.records = []) :
    file.WellNamed := by
  intro record member
  rw [none] at member
  cases member

theorem wellNamed_ofDoc (inner : Bool) (attributes : List Attribute) :
    (ofDoc inner attributes).WellNamed := by
  apply wellNamed_of_records_eq_nil
  simp only [ofDoc]
  split <;> rfl

theorem wellNamed_ofVariants (variants : List Variant) :
    (variants.foldr (fun variant rest => ofVariant variant ++ rest) {}).WellNamed := by
  induction variants with
  | nil => exact wellNamed_of_records_eq_nil rfl
  | cons variant variants induction =>
      have own : (ofVariant variant).WellNamed :=
        (wellNamed_ofDoc false variant.attributes).append (wellNamed_of_records_eq_nil rfl)
      exact own.append induction

theorem wellNamed_ofBody (body : RecordBody) : (ofBody body).WellNamed := by
  cases body with
  | enumeration variants => exact wellNamed_ofVariants variants
  | _ => exact wellNamed_of_records_eq_nil rfl

theorem wellNamed_ofRecord (attributes : List Attribute) (name : Ident) (body : RecordBody) :
    (ofRecord attributes name body).WellNamed := by
  refine WellNamed.append ?_ (wellNamed_ofBody body)
  intro record member fields found field fieldMember
  obtain rfl := List.mem_singleton.1 member
  cases body with
  | struct declared =>
      obtain rfl := Option.some.inj found
      obtain ⟨source, _, named⟩ := List.mem_filterMap.1 fieldMember
      obtain ⟨_, _, rfl⟩ := Option.map_eq_some_iff.1 named
      exact TypeExpr.wellNamed_ofTy source.type
  | _ => cases found

mutual

theorem wellNamed_ofItem : (item : Item) → (ofItem item).WellNamed
  | .plain attributes inside => by
      rw [ofItem]
      exact (wellNamed_ofDoc false attributes).append (wellNamed_ofItems inside)
  | .routine attributes name => by
      rw [ofItem]
      exact (wellNamed_ofDoc false attributes).append (wellNamed_of_records_eq_nil rfl)
  | .record attributes name body => by
      rw [ofItem]
      exact (wellNamed_ofDoc false attributes).append (wellNamed_ofRecord attributes name body)
  | .module attributes inside items => by
      rw [ofItem]
      exact (((wellNamed_ofDoc false attributes).append (wellNamed_ofDoc true attributes)).append
        (wellNamed_ofItems inside)).append (wellNamed_ofItems items)
  | .methods attributes inside members => by
      rw [ofItem]
      exact ((wellNamed_ofDoc false attributes).append (wellNamed_ofItems inside)).append
        (wellNamed_ofItems members)
  | .method attributes name hasBody => by
      rw [ofItem]
      refine (wellNamed_ofDoc false attributes).append ?_
      split <;> exact wellNamed_of_records_eq_nil rfl
  | .other inside => by
      rw [ofItem]
      exact wellNamed_ofItems inside

theorem wellNamed_ofItems : (items : List Item) → (ofItems items).WellNamed
  | [] => by
      rw [ofItems]
      exact wellNamed_of_records_eq_nil rfl
  | item :: items => by
      rw [ofItems]
      exact (wellNamed_ofItem item).append (wellNamed_ofItems items)

end

/-- The declarations of every source file are well named. -/
theorem wellNamed_ofFile (file : File) : (ofFile file).WellNamed :=
  ((wellNamed_ofDoc true file.attributes).append (wellNamed_ofItems file.inside)).append
    (wellNamed_ofItems file.items)

end Declarations

namespace Schema

/-! ## Schemas -/

theorem wellKnown?_eq_some {name : String} {schema : Schema}
    (found : wellKnown? name = some schema) : ∃ format, schema = typed "string" (some format) := by
  obtain ⟨format, _, rfl⟩ := Option.map_eq_some_iff.1 found
  exact ⟨format, rfl⟩

/-- The schema of a name is a base type, or a reference to that name. -/
theorem ofName_cases (name : String) :
    (∃ type format, ofName name = typed type format) ∨ ofName name = ref name := by
  rw [ofName]
  cases primitive? name with
  | some found => exact Or.inl ⟨found.1, found.2, rfl⟩
  | none =>
      cases known : wellKnown? name with
      | none => exact Or.inr rfl
      | some schema =>
          obtain ⟨format, rfl⟩ := wellKnown?_eq_some known
          exact Or.inl ⟨"string", some format, rfl⟩

/-- The schema of a type that says anything in place has a base type. -/
theorem type_of_inline (type : TypeExpr) (inline : (ofType type).isReference = false)
    (filled : (ofType type).isEmpty = false) : ∃ base, (ofType type).type = some base := by
  induction type with
  | named name =>
      rw [ofType] at inline ⊢
      rcases ofName_cases name with ⟨base, format, equality⟩ | equality
      · exact ⟨base, by rw [equality]; rfl⟩
      · rw [equality] at inline
        cases inline
  | optional inner induction =>
      by_cases mute : ((ofType inner).isReference || (ofType inner).isEmpty) = true
      · have same : ofType (.optional inner) = ofType inner := by
          rw [ofType, orNull, if_pos mute]
        rw [same] at inline filled ⊢
        exact induction inline filled
      · have marked : ofType (.optional inner) = { ofType inner with nullable := true } := by
          rw [ofType, orNull, if_neg mute]
        rw [Bool.not_eq_true, Bool.or_eq_false_iff] at mute
        rw [marked]
        exact induction mute.1 mute.2
  | sequence element _ => exact ⟨"array", by rw [ofType]; rfl⟩
  | map value _ => exact ⟨"object", by rw [ofType]; rfl⟩
  | foreign qualifier name =>
      rw [ofType] at filled ⊢
      cases known : wellKnown? name with
      | none =>
          rw [known] at filled
          cases filled
      | some schema =>
          obtain ⟨format, rfl⟩ := wellKnown?_eq_some known
          exact ⟨"string", rfl⟩
  | unsupported =>
      rw [ofType] at filled
      cases filled

theorem wellFormed_ofName {name : String} (nonempty : name ≠ "") : (ofName name).WellFormed := by
  rcases ofName_cases name with ⟨type, format, equality⟩ | equality
  · rw [equality]
    exact wellFormed_typed type format
  · rw [equality]
    exact wellFormed_ref nonempty

/-- A schema of a type stays well-formed as the schema of a value that may be missing. -/
theorem wellFormed_orNull {type : TypeExpr} (formed : (ofType type).WellFormed) :
    (ofType type).orNull.WellFormed := by
  rw [orNull]
  split
  · exact formed
  · rename_i speaks
    rw [Bool.not_eq_true, Bool.or_eq_false_iff] at speaks
    have inline := reference_eq_none_of_inline speaks.1
    refine .intro ⟨?_, ?_, formed.top.items, formed.top.additional⟩
      (fun _ => formed.of_items) (fun _ => formed.of_additional) (fun _ => formed.of_property)
    · intro address found
      rw [inline] at found
      cases found
    · intro _
      exact type_of_inline type speaks.1 speaks.2

/-- The schema of a well-named type is well-formed. -/
theorem wellFormed_ofType {type : TypeExpr} (named : type.WellNamed) :
    (ofType type).WellFormed := by
  induction type with
  | named name =>
      rw [ofType]
      exact wellFormed_ofName named
  | optional inner induction =>
      rw [ofType]
      exact wellFormed_orNull (induction named)
  | sequence element induction =>
      rw [ofType]
      apply wellFormed_array
      intro inner kept
      obtain ⟨rfl, filled⟩ := nonEmpty?_eq_some kept
      exact ⟨induction named, filled⟩
  | map value induction =>
      rw [ofType]
      apply wellFormed_map
      intro inner kept
      obtain ⟨rfl, filled⟩ := nonEmpty?_eq_some kept
      exact ⟨induction named, filled⟩
  | foreign qualifier name =>
      rw [ofType]
      cases known : wellKnown? name with
      | none => exact wellFormed_empty
      | some schema =>
          obtain ⟨format, rfl⟩ := wellKnown?_eq_some known
          exact wellFormed_typed "string" (some format)
  | unsupported =>
      rw [ofType]
      exact wellFormed_empty

theorem wellFormed_ofWord (word : String) : (ofWord word).WellFormed :=
  wellFormed_ofType (TypeExpr.wellNamed_ofWord word.toList)

/-- The schema of a schema word is well-formed, also when it is an array of references. -/
theorem wellFormed_ofToken (token : String) : (ofToken token).WellFormed := by
  unfold ofToken
  split
  · dsimp only
    split
    · apply wellFormed_array
      simp
    · rename_i element _ nonempty
      apply wellFormed_array
      intro inner found
      obtain rfl := Option.some.inj found
      refine ⟨wellFormed_ref ?_, rfl⟩
      intro empty
      exact nonempty (List.isEmpty_iff.2 (String.ofList_eq_empty_iff.1 empty))
  · exact wellFormed_ofWord token

end Schema
end DocApi
