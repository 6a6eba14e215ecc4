import DocApi.Source.Tree

/-!
# Declarations of a source file

Only what a description of an interface can depend on is kept of a source file: the attributes of
its items, the names of its routines, and the fields of its records with their types. Of
everything else an item holds, such as the expression of a constant, only the items declared in it
are kept.
-/

namespace DocApi.Source

/-- A declared type. Of the arguments of a path's last segment only the types are kept, and of its
other segments only the names. -/
inductive Ty where
  /-- A path such as `Vec<u8>` or `time::Date`. -/
  | path (qualifier : List Ident) (name : Ident) (arguments : List Ty)
  | reference (target : Ty)
  | parenthesized (inner : Ty)
  | array (element : Ty)
  | slice (element : Ty)
  /-- Tuples, pointers, functions, traits, qualified paths and macros. -/
  | other
deriving Repr, Inhabited

/-- What follows the path of an attribute. -/
inductive Attribute.Content where
  /-- Nothing. -/
  | none
  /-- Tokens between delimiters. -/
  | arguments (trees : List Tree)
  /-- `= "text"` -/
  | text (value : String)
  /-- Any other value. -/
  | value

/-- An attribute. -/
structure Attribute where
  /-- Whether it belongs to what encloses it: `#![..]` or `//!`. -/
  inner : Bool
  /-- The attribute's name, when its path is a single identifier. -/
  name : Option Ident
  content : Attribute.Content

/-- Whether the path of the attribute is the one word `word`. -/
def Attribute.isNamed (attr : Attribute) (word : String) : Bool :=
  match attr.name with
  | some name => name.isWord word
  | none => false

/-- A field of a record or variant. -/
structure Field where
  attributes : List Attribute
  /-- The field's name; the fields of a tuple have none. -/
  name : Option Ident
  type : Ty

/-- A variant of an enumeration. -/
structure Variant where
  attributes : List Attribute
  fields : List Field

/-- The body of a record. -/
inductive RecordBody where
  /-- A struct; those with tuple fields or none count as having no named fields. -/
  | struct (fields : List Field)
  | enumeration (variants : List Variant)
  | union (fields : List Field)
  | alias

/-- An item. The items in `inside` are declared within expressions, types or attributes of the
item. -/
inductive Item where
  /-- A constant, a static or an import. -/
  | plain (attributes : List Attribute) (inside : List Item)
  /-- A function with a body. -/
  | routine (attributes : List Attribute) (name : Ident)
  /-- A struct, an enumeration, a union or a type alias. -/
  | record (attributes : List Attribute) (name : Ident) (body : RecordBody)
  /-- A module; one that stands in another file has no items. -/
  | module (attributes : List Attribute) (inside : List Item) (items : List Item)
  /-- A trait, or the implementation of methods for a type. -/
  | methods (attributes : List Attribute) (inside : List Item) (members : List Item)
  /-- A method of a trait or implementation. -/
  | method (attributes : List Attribute) (name : Ident) (hasBody : Bool)
  /-- Everything else: macros, foreign blocks, associated constants and types. -/
  | other (inside : List Item)

/-- A source file. -/
structure File where
  /-- The attributes of the file as a whole. -/
  attributes : List Attribute
  /-- The items declared within these attributes. -/
  inside : List Item
  items : List Item

end DocApi.Source
