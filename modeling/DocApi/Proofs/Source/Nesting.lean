import DocApi.Proofs.Source.DocText
import DocApi.Proofs.Spec.Phases
import DocApi.Source.Declarations
import Mathlib.Data.Setoid.Basic
import Mathlib.Logic.Relation

/-!
# Nested modules

The declarations of items are gathered from left to right, wherever the items stand. A module
without attributes has nothing of its own to declare, so it does not matter which items are put into
one.
-/

namespace DocApi

open Source

namespace Declarations

/-! ## One after the other -/

theorem empty_append (file : Declarations) : {} ++ file = file := rfl

theorem append_assoc (first second third : Declarations) :
    first ++ second ++ third = first ++ (second ++ third) := by simp

/-- The declarations of items are those of a first part and those of the rest. -/
theorem ofItems_append (first second : List Item) :
    ofItems (first ++ second) = ofItems first ++ ofItems second := by
  induction first with
  | nil =>
      rw [List.nil_append, ofItems, empty_append]
  | cons item first induction =>
      rw [List.cons_append, ofItems, ofItems, induction, append_assoc]

theorem ofItems_between (before : List Item) (item : Item) (after : List Item) :
    ofItems (before ++ item :: after) = ofItems before ++ (ofItem item ++ ofItems after) := by
  rw [ofItems_append, ofItems]

/-- A module without attributes declares what its items declare. -/
theorem ofItem_module_nil (items : List Item) : ofItem (.module [] [] items) = ofItems items := by
  have silent (inner : Bool) : ofDoc inner [] = {} := by
    cases inner <;> rfl
  rw [ofItem, silent, silent, ofItems]
  rfl

end Declarations

/-! ## Runs of items in modules -/

/-- An item with a gap where a list of items belongs. -/
inductive ItemContext where
  | plain (attributes : List Attribute)
  | module (attributes : List Attribute) (inside : List Item)
  | moduleInside (attributes : List Attribute) (items : List Item)
  | methods (attributes : List Attribute) (inside : List Item)
  | methodsInside (attributes : List Attribute) (members : List Item)
  | other

/-- The item with the given items in the gap. -/
def ItemContext.fill : ItemContext → List Item → Item
  | .plain attributes, inside => .plain attributes inside
  | .module attributes inside, items => .module attributes inside items
  | .moduleInside attributes items, inside => .module attributes inside items
  | .methods attributes inside, members => .methods attributes inside members
  | .methodsInside attributes members, inside => .methods attributes inside members
  | .other, inside => .other inside

/-- The second items are the first with one run of neighbours, at any depth, moved into a module
without attributes. -/
inductive Enclosed : List Item → List Item → Prop
  | here (before run after : List Item) :
      Enclosed (before ++ run ++ after) (before ++ .module [] [] run :: after)
  | within {items other : List Item} (context : ItemContext) (before after : List Item)
      (enclosed : Enclosed items other) :
      Enclosed (before ++ context.fill items :: after) (before ++ context.fill other :: after)

namespace Declarations

theorem ofItem_fill_congr {items other : List Item} (same : ofItems other = ofItems items)
    (context : ItemContext) : ofItem (context.fill other) = ofItem (context.fill items) := by
  cases context <;> simp only [ItemContext.fill, ofItem, same]

/-- Moving a run of items into a module without attributes changes no declarations. -/
theorem ofItems_enclosed {items other : List Item} (enclosed : Enclosed items other) :
    ofItems other = ofItems items := by
  induction enclosed with
  | here before run after =>
      rw [ofItems_between, ofItem_module_nil, ofItems_append, ofItems_append, append_assoc]
  | within context before after _ induction =>
      rw [ofItems_between, ofItems_between, ofItem_fill_congr induction]

theorem ofItems_of_eqvGen {items other : List Item}
    (nested : Relation.EqvGen Enclosed items other) :
    ofItems items = ofItems other :=
  (Setoid.ker ofItems).iseqv.eqvGen_iff.1 (nested.mono fun _ _ step => (ofItems_enclosed step).symm)

end Declarations

/-- Two files that differ only in which items stand in modules without attributes. -/
structure File.Nested (file other : File) : Prop where
  attributes : other.attributes = file.attributes
  inside : Relation.EqvGen Enclosed file.inside other.inside
  items : Relation.EqvGen Enclosed file.items other.items

/-- The declarations of two lists of items are those of the one and then those of the other, and
modules without attributes around any runs of the items of a file make no difference to them, nor to
what a description gathers from them. -/
theorem Declarations.append_and_nested :
    (∀ first second : List Item,
        (ofItems (first ++ second)).docBlocks =
            (ofItems first).docBlocks ++ (ofItems second).docBlocks ∧
          (ofItems (first ++ second)).routines =
            (ofItems first).routines ++ (ofItems second).routines ∧
          (ofItems (first ++ second)).records =
            (ofItems first).records ++ (ofItems second).records) ∧
      ∀ file other : File, File.Nested file other →
        ofFile other = ofFile file ∧
          ∀ spec : Spec, spec.walk (ofFile other) = spec.walk (ofFile file) := by
  refine ⟨fun first second => ?_, fun file other nested => ?_⟩
  · rw [ofItems_append]
    exact ⟨rfl, rfl, rfl⟩
  · have same : ofFile other = ofFile file := by
      rw [ofFile, ofFile, nested.attributes, ofItems_of_eqvGen nested.inside,
        ofItems_of_eqvGen nested.items]
    exact ⟨same, fun spec => by rw [same]⟩

/-! ## Modules within a module -/

/-- A doc comment that names a tag. -/
def petsComment : Attribute := ⟨true, some ⟨"doc", false, doc_ne_empty⟩, .text " !tag pets"⟩

/-- A file of one module with this comment. -/
def petsModule (items : List Item) : File where
  attributes := []
  inside := []
  items := [.module [petsComment] [] items]

/-- A function. -/
def listPets : Item := .routine [] ⟨"list_pets", false, by decide⟩

/-- Another function. -/
def showPet : Item := .routine [] ⟨"show_pet", false, by decide⟩

/-- A function in the block of a constant and a function beside the constant: the one is put into a
module, and then everything in the outer module is. -/
theorem Declarations.append_and_nested_pets :
    let flat := petsModule [.plain [] [listPets], showPet]
    let deep := petsModule [.module [] [] [.plain [] [.module [] [] [listPets]], showPet]]
    File.Nested flat deep ∧ ofFile deep = ofFile flat ∧
      ∀ spec : Spec, spec.walk (ofFile deep) = spec.walk (ofFile flat) := by
  intro flat deep
  let around (items : List Item) : List Item := (petsModule items).items
  have step {items other : List Item} (enclosed : Enclosed items other) :
      Enclosed (around items) (around other) :=
    .within (.module [petsComment] []) [] [] enclosed
  have first : Enclosed [.plain [] [listPets], showPet]
      [.plain [] [.module [] [] [listPets]], showPet] :=
    .within (.plain []) [] [showPet] (.here [] [listPets] [])
  have second : Enclosed [.plain [] [.module [] [] [listPets]], showPet]
      [.module [] [] [.plain [] [.module [] [] [listPets]], showPet]] := by
    simpa using Enclosed.here [] [.plain [] [.module [] [] [listPets]], showPet] []
  have nested : File.Nested flat deep :=
    ⟨rfl, .refl _, .trans _ _ _ (.rel _ _ (step first)) (.rel _ _ (step second))⟩
  exact ⟨nested, append_and_nested.2 flat deep nested⟩

end DocApi
