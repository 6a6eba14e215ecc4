import DocApi.Source.DocText
import DocApi.Source.Naming
import DocApi.Source.Serialization
import DocApi.TypeExpr

/-!
# Declarations

The flat view of a source file that annotations are read from: every block of doc comments, every
routine and every record, each in the order of the source.
-/

namespace DocApi

open Source

/-- A function or method with a body. -/
structure Routine where
  name : String
  doc : String
  deprecated : Bool
deriving DecidableEq, Repr

/-- A named field of a struct. -/
structure FieldDecl where
  name : String
  type : TypeExpr
  doc : String
  serialization : Serialization
deriving DecidableEq, Repr

/-- A struct, an enumeration, a union or a type alias. -/
structure RecordDecl where
  name : String
  doc : String
  serialization : Serialization
  /-- The named fields of a struct; other records have no fields to speak of. -/
  fields : Option (List FieldDecl)
deriving DecidableEq, Repr

/-- The name under which a field of a record is exchanged, unless it is left out. -/
def FieldDecl.serializedName (field : FieldDecl) (record : Serialization) : Option String :=
  if field.serialization.skip then none
  else
    match field.serialization.rename, record.renameAll with
    | some name, _ => some name
    | none, some rule => some (renamed rule field.name)
    | none, none => some field.name

/-- The declarations of a source file. -/
structure Declarations where
  /-- The texts of the doc comments that are not blank. -/
  docBlocks : List String := []
  routines : List Routine := []
  records : List RecordDecl := []
deriving DecidableEq, Repr

namespace Declarations

/-- The declarations of two pieces of source, one after the other. -/
def append (first second : Declarations) : Declarations where
  docBlocks := first.docBlocks ++ second.docBlocks
  routines := first.routines ++ second.routines
  records := first.records ++ second.records

instance : Append Declarations := ⟨append⟩

/-- The doc comment of one side, unless it is blank. -/
def ofDoc (inner : Bool) (attributes : List Attribute) : Declarations :=
  let text := docText inner attributes
  if (trim text.toList).isEmpty then {} else { docBlocks := [text] }

/-- A routine. -/
def ofRoutine (attributes : List Attribute) (name : Ident) : Declarations :=
  { routines := [{
      name := name.name
      doc := docText false attributes
      deprecated := attributes.any (·.isNamed "deprecated") }] }

/-- A field of a struct, when it has a name. -/
def fieldDecl? (field : Field) : Option FieldDecl :=
  field.name.map fun name => {
    name := name.name
    type := .ofTy field.type
    doc := docText false field.attributes
    serialization := .ofAttributes field.attributes }

/-- The doc comments of fields. -/
def ofFields (fields : List Field) : Declarations :=
  { docBlocks := fields.flatMap fun field => (ofDoc false field.attributes).docBlocks }

/-- The doc comments of a variant. -/
def ofVariant (variant : Variant) : Declarations :=
  ofDoc false variant.attributes ++ ofFields variant.fields

/-- The fields that the declaration of a record keeps. -/
def recordFields : RecordBody → Option (List FieldDecl)
  | .struct fields => some (fields.filterMap fieldDecl?)
  | .enumeration _ | .union _ | .alias => none

/-- The doc comments within the body of a record. -/
def ofBody : RecordBody → Declarations
  | .struct fields => ofFields fields
  | .enumeration variants => variants.foldr (fun variant rest => ofVariant variant ++ rest) {}
  | .union fields => ofFields fields
  | .alias => {}

/-- A record. -/
def ofRecord (attributes : List Attribute) (name : Ident) (body : RecordBody) : Declarations :=
  { records := [{
      name := name.name
      doc := docText false attributes
      serialization := .ofAttributes attributes
      fields := recordFields body }] } ++ ofBody body

mutual

/-- The declarations of an item. -/
def ofItem : Item → Declarations
  | .plain attributes inside => ofDoc false attributes ++ ofItems inside
  | .routine attributes name => ofDoc false attributes ++ ofRoutine attributes name
  | .record attributes name body => ofDoc false attributes ++ ofRecord attributes name body
  | .module attributes inside items =>
      ofDoc false attributes ++ ofDoc true attributes ++ ofItems inside ++ ofItems items
  | .methods attributes inside members =>
      ofDoc false attributes ++ ofItems inside ++ ofItems members
  | .method attributes name hasBody =>
      ofDoc false attributes ++ if hasBody then ofRoutine attributes name else {}
  | .other inside => ofItems inside

/-- The declarations of items. -/
def ofItems : List Item → Declarations
  | [] => {}
  | item :: items => ofItem item ++ ofItems items

end

/-- The declarations of a source file. -/
def ofFile (file : File) : Declarations :=
  ofDoc true file.attributes ++ ofItems file.inside ++ ofItems file.items

/-- The declarations of a source text, unless it cannot be parsed. -/
def parse? (source : String) : Option Declarations := (File.parse? source).map ofFile

end Declarations

end DocApi
