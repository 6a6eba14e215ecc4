import DocApi.Source.Parser

/-!
# Serialization attributes

The attribute `serde` decides under which names a record is exchanged and which of its fields are
left out. Its arguments are entries separated by commas. An entry that cannot be read ends the
attribute; the entries before it count.
-/

namespace DocApi.Source

open Grammar Rule

/-- What the attributes of a record or field say about its serialized form. -/
structure Serialization where
  /-- The name of the field. -/
  rename : Option String := none
  /-- The rule for the names of all fields of a record. -/
  renameAll : Option String := none
  /-- Whether the field is left out. -/
  skip : Bool := false
  /-- Whether the field is left out for some values. -/
  omitEmpty : Bool := false
deriving DecidableEq, Repr

namespace Serialization

/-- The path of an entry; gives the key when it is a single word. Keywords are allowed. -/
def key : Rule (Option Ident) := do
  let rooted ← punct? "::"
  let first ← anyIdent
  let more ← whileAhead (isPunct "::") do
    punct "::"
    anyIdent
  return if rooted || !more.isEmpty then none else some first

/-- A list of entries in parentheses; there must be one. -/
def nested {α : Type} (entry : Rule α) : Rule (List α) :=
  within .paren do
    require !(← atEnd)
    commaList entry

/-- `key = "text"`; gives the text when the key is `serialize`. -/
def directedName : Rule (Option String) := do
  let key ← key
  punct "="
  let name ← text
  return if key.any (·.isWord "serialize") then some name else none

/-- The name after a key: `= "name"`, or the last one that is given for serializing. -/
def serializedName : Rule (Option String) := do
  if ← ahead (isPunct "=") then
    punct "="
    return some (← text)
  else
    return ((← nested directedName).filterMap id).getLast?

/-- What follows an unknown key: nothing, a value, or a list of entries that are nested at most
`depth` deep. -/
def skipValue (g : Grammar) : (depth : Nat) → Rule Unit
  | 0 => fail
  | depth + 1 => do
      if ← ahead (isPunct "=") then
        punct "="
        let _ ← g.expr true
      else if ← ahead (isGroup .paren) then
        let _ ← nested do
          let _ ← key
          skipValue g depth

/-- One entry; gives what it changes. -/
def entry (g : Grammar) (depth : Nat) : Rule (Serialization → Serialization) := do
  let key ← key
  let isKey := fun (word : String) => key.any (·.isWord word)
  if isKey "rename" then
    let name ← serializedName
    return fun found => { found with rename := name.or found.rename }
  else if isKey "rename_all" then
    let name ← serializedName
    return fun found => { found with renameAll := name.or found.renameAll }
  else if isKey "skip" || isKey "skip_serializing" then
    return fun found => { found with skip := true }
  else if isKey "skip_serializing_if" then
    punct "="
    let _ ← text
    return fun found => { found with omitEmpty := true }
  else
    skipValue g depth
    return id

/-- Reads at most `count` entries; the first that cannot be read ends them. -/
def readEntries (entry : Rule (Serialization → Serialization)) :
    (count : Nat) → Serialization → List Tree → Serialization
  | 0, found, _ => found
  | count + 1, found, trees =>
      match entry ⟨trees, false, []⟩ with
      | none => found
      | some (change, cursor) =>
          match cursor.rest with
          | .punct ',' _ :: rest => readEntries entry count (change found) rest
          | _ => change found

/-- Reads the arguments of one attribute. -/
def readArguments (found : Serialization) (trees : List Tree) : Serialization :=
  readEntries (entry (Grammar.forTrees trees) (treesSize trees + 1)) (trees.length + 1) found trees

/-- Reads one attribute. -/
def readAttribute (found : Serialization) (attr : Attribute) : Serialization :=
  match attr.content with
  | .arguments trees => if attr.isNamed "serde" then readArguments found trees else found
  | _ => found

/-- What attributes say about the serialized form. -/
def ofAttributes (attributes : List Attribute) : Serialization := attributes.foldl readAttribute {}

end Serialization

end DocApi.Source
