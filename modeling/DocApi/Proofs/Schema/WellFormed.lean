import DocApi.Schema.Resolve
import Mathlib.Data.List.Basic

/-!
# Well-formed schemas

A reference adds at most a description to the address of a named schema, only a node with a type
is nullable, and items and values are never left blank. The schema of every type has these
properties at all depths, as long as the type names nothing by the empty name, and the marks that
annotations add to a node keep them.
-/

namespace DocApi
namespace Schema

/-! ## Nodes -/

/-- `node` stands in a schema, at any depth. -/
inductive Within (node : Schema) : Schema → Prop
  | self : Within node node
  | items {inner outer : Schema} :
      outer.items = some inner → Within node inner → Within node outer
  | additional {inner outer : Schema} :
      outer.additional = some inner → Within node inner → Within node outer
  | property {inner outer : Schema} {properties : List (String × Schema)} {name : String} :
      outer.properties = some properties → (name, inner) ∈ properties → Within node inner →
        Within node outer

/-- What holds of a single node. -/
structure NodeWellFormed (node : Schema) : Prop where
  /-- A reference is the address of a name, and says nothing else but a description. -/
  reference : ∀ address, node.reference = some address →
    (∃ name, name ≠ "" ∧ address = referenceStart ++ name) ∧
      node = { reference := some address, description := node.description }
  /-- Only a type can be nullable. -/
  nullable : node.nullable = true → ∃ type, node.type = some type
  /-- Items say something. -/
  items : ∀ inner, node.items = some inner → inner.isEmpty = false
  /-- The values of a map say something. -/
  additional : ∀ inner, node.additional = some inner → inner.isEmpty = false

/-- Every node is well-formed. -/
def WellFormed (schema : Schema) : Prop := ∀ node, Within node schema → NodeWellFormed node

/-- A schema is well-formed when its topmost node is, and the schemas in it are. -/
theorem WellFormed.intro {schema : Schema} (top : NodeWellFormed schema)
    (items : ∀ inner, schema.items = some inner → WellFormed inner)
    (additional : ∀ inner, schema.additional = some inner → WellFormed inner)
    (properties : ∀ entries, schema.properties = some entries →
      ∀ entry ∈ entries, WellFormed entry.2) : WellFormed schema := by
  intro node within
  cases within with
  | self => exact top
  | items found deeper => exact items _ found node deeper
  | additional found deeper => exact additional _ found node deeper
  | property found member deeper => exact properties _ found _ member node deeper

theorem WellFormed.top {schema : Schema} (formed : WellFormed schema) : NodeWellFormed schema :=
  formed schema .self

theorem WellFormed.of_items {schema inner : Schema} (formed : WellFormed schema)
    (found : schema.items = some inner) : WellFormed inner :=
  fun node within => formed node (.items found within)

theorem WellFormed.of_additional {schema inner : Schema} (formed : WellFormed schema)
    (found : schema.additional = some inner) : WellFormed inner :=
  fun node within => formed node (.additional found within)

theorem WellFormed.of_property {schema : Schema} {entries : List (String × Schema)}
    (formed : WellFormed schema) (found : schema.properties = some entries) :
    ∀ entry ∈ entries, WellFormed entry.2 :=
  fun _ member node within => formed node (.property found member within)

/-! ## Changing the topmost node -/

/-- An inline node stays well-formed when neither its type nor what stands in it changes. -/
theorem WellFormed.inline {before after : Schema} (formed : WellFormed before)
    (inline : after.reference = none) (nullable : after.nullable = before.nullable)
    (type : after.type = before.type) (items : after.items = before.items)
    (additional : after.additional = before.additional)
    (properties : after.properties = before.properties) : WellFormed after := by
  refine .intro ⟨?_, ?_, ?_, ?_⟩ ?_ ?_ ?_
  · intro address found
    rw [inline] at found
    cases found
  · rw [nullable, type]
    exact formed.top.nullable
  · rw [items]
    exact formed.top.items
  · rw [additional]
    exact formed.top.additional
  · intro inner found
    exact formed.of_items (items ▸ found)
  · intro inner found
    exact formed.of_additional (additional ▸ found)
  · intro entries found
    exact formed.of_property (properties ▸ found)

theorem reference_eq_none_of_inline {schema : Schema} (inline : schema.isReference = false) :
    schema.reference = none := by
  simpa [isReference] using inline

/-- An inline node may have any format, example and values. -/
theorem WellFormed.decorate {schema : Schema} (formed : WellFormed schema)
    (inline : schema.isReference = false) (format : Option String) (example? : Option Json)
    (values : Option (List Json)) : WellFormed { schema with format, example?, values } :=
  formed.inline (reference_eq_none_of_inline inline) rfl rfl rfl rfl rfl

/-- Any node may have any description. -/
theorem WellFormed.describe {schema : Schema} (formed : WellFormed schema)
    (description : Option String) : WellFormed { schema with description } := by
  rcases Option.eq_none_or_eq_some schema.reference with inline | ⟨address, found⟩
  · exact formed.inline inline rfl rfl rfl rfl rfl
  · obtain ⟨named, bare⟩ := formed.top.reference address found
    rw [bare]
    refine .intro ⟨?_, ?_, ?_, ?_⟩ ?_ ?_ ?_
    · intro other same
      obtain rfl := Option.some.inj same
      exact ⟨named, rfl⟩
    all_goals simp

/-! ## The basic schemas -/

theorem wellFormed_empty : WellFormed {} := by
  refine .intro ⟨?_, ?_, ?_, ?_⟩ ?_ ?_ ?_ <;> simp

theorem wellFormed_ref {name : String} (nonempty : name ≠ "") : (ref name).WellFormed := by
  refine .intro ⟨?_, ?_, ?_, ?_⟩ ?_ ?_ ?_
  · intro address found
    obtain rfl := Option.some.inj found
    exact ⟨⟨name, nonempty, rfl⟩, rfl⟩
  all_goals simp [ref]

theorem wellFormed_typed (type : String) (format : Option String) :
    (typed type format).WellFormed := by
  refine .intro ⟨?_, ?_, ?_, ?_⟩ ?_ ?_ ?_ <;> simp [typed]

/-- An array is well-formed when its items are and say something. -/
theorem wellFormed_array {items : Option Schema}
    (formed : ∀ inner, items = some inner → inner.WellFormed ∧ inner.isEmpty = false) :
    (array items).WellFormed := by
  refine .intro ⟨?_, ?_, ?_, ?_⟩ ?_ ?_ ?_
  · simp [array]
  · simp [array]
  · intro inner found
    exact (formed inner found).2
  · simp [array]
  · intro inner found
    exact (formed inner found).1
  all_goals simp [array]

/-- A map is well-formed when its values are and say something. -/
theorem wellFormed_map {values : Option Schema}
    (formed : ∀ inner, values = some inner → inner.WellFormed ∧ inner.isEmpty = false) :
    (map values).WellFormed := by
  refine .intro ⟨?_, ?_, ?_, ?_⟩ ?_ ?_ ?_
  · simp [map]
  · simp [map]
  · simp [map]
  · intro inner found
    exact (formed inner found).2
  · simp [map]
  · intro inner found
    exact (formed inner found).1
  · simp [map]

/-- An object is well-formed when its properties are. -/
theorem wellFormed_object {properties : List (String × Schema)} (description : Option String)
    (required : List String) (formed : ∀ entry ∈ properties, entry.2.WellFormed) :
    WellFormed
      { type := some "object", description, properties := some properties, required } := by
  refine .intro ⟨?_, ?_, ?_, ?_⟩ ?_ ?_ ?_
  case refine_7 =>
    intro entries found
    obtain rfl := Option.some.inj found
    exact formed
  all_goals simp

theorem isEmpty_eq_false_iff (schema : Schema) : schema.isEmpty = false ↔ schema ≠ {} := by
  rw [← Bool.not_eq_true, not_iff_not]
  constructor
  · intro empty
    unfold isEmpty at empty
    split at empty
    · rfl
    · cases empty
  · rintro rfl
    rfl

theorem nonEmpty?_eq_some {schema inner : Schema} (kept : schema.nonEmpty? = some inner) :
    inner = schema ∧ schema.isEmpty = false := by
  rw [nonEmpty?] at kept
  split at kept
  · cases kept
  · rename_i filled
    exact ⟨(Option.some.inj kept).symm, by simpa using filled⟩

end Schema
end DocApi
