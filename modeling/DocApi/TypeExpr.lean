import DocApi.Source.Parser
import DocApi.Text.Blank
import DocApi.Text.Split

/-!
# Type expressions

What a declared type says about the values that are exchanged. A type expression comes from the
type of a field in the source, or from the type word of an annotation.
-/

namespace DocApi

open Source

/-- A type as far as a schema can tell. -/
inductive TypeExpr where
  /-- A primitive, or a model that is declared somewhere. -/
  | named (name : String)
  | optional (inner : TypeExpr)
  | sequence (element : TypeExpr)
  /-- A map with strings as keys. -/
  | map (value : TypeExpr)
  /-- A type of another library, by the path that leads to it. -/
  | foreign (qualifier : List String) (name : String)
  /-- Tuples, functions and everything else without a schema. -/
  | unsupported
deriving DecidableEq, Repr

namespace TypeExpr

/-- The wrappers whose values are exchanged like what they wrap. -/
def wrapperNames : List String := ["Box", "Rc", "Arc", "Cow", "RefCell", "Cell"]

/-- The collections that are exchanged as arrays. -/
def sequenceNames : List String :=
  ["Vec", "VecDeque", "HashSet", "BTreeSet", "IndexSet", "LinkedList"]

/-- The collections that are exchanged as objects. -/
def mapNames : List String := ["HashMap", "BTreeMap", "IndexMap"]

/-- The first words of paths that stay within the library. -/
def localRoots : List String := ["crate", "self", "super"]

/-- The type that a path with type arguments names. Known names take the arguments they need;
another name is foreign when it has a qualifier that leaves the library. -/
def ofPath (qualifier : List String) (name : String) (arguments : List TypeExpr) : TypeExpr :=
  if name = "Option" then
    match arguments with
    | inner :: _ => .optional inner
    | [] => .unsupported
  else if wrapperNames.contains name then arguments.headD .unsupported
  else if sequenceNames.contains name then .sequence (arguments.headD .unsupported)
  else if mapNames.contains name then .map (arguments[1]?.getD .unsupported)
  else
    match qualifier with
    | [] => .named name
    | root :: _ => if localRoots.contains root then .named name else .foreign qualifier name

mutual

/-- The type expression of a declared type. -/
def ofTy : Ty → TypeExpr
  | .path qualifier name arguments =>
      ofPath (qualifier.map Ident.spelling) name.spelling (ofTys arguments)
  | .reference target => ofTy target
  | .parenthesized inner => ofTy inner
  | .array element => .sequence (ofTy element)
  | .slice element => .sequence (ofTy element)
  | .other => .unsupported

/-- The type expressions of declared types. -/
def ofTys : List Ty → List TypeExpr
  | [] => []
  | type :: types => ofTy type :: ofTys types

end

/-- Whether a word is written in the syntax of declared types. -/
def isDeclared (word : List Char) : Bool :=
  word.any fun c => c == '<' || c == ':' || c == '[' || c == '&'

/-- The type expression of a trimmed word without markers. -/
def ofPlainWord (word : List Char) : TypeExpr :=
  if word.isEmpty then .unsupported
  else if isDeclared word then
    match Ty.parse? word with
    | some type => ofTy type
    | none => .unsupported
  else .named (String.ofList word)

/-- What an optional marker on either side of a word leaves; the one in front counts first. -/
def dropOptionMark? (word : List Char) : Option (List Char) :=
  (afterStart? ['?'] word).or (beforeEnd? ['?'] word)

theorem length_of_dropOptionMark? {word inner : List Char}
    (h : dropOptionMark? word = some inner) : inner.length < word.length := by
  rcases Option.or_eq_some_iff.1 h with found | ⟨_, found⟩
  · have := length_of_afterStart? found
    simp only [List.length_singleton] at this
    omega
  · have := length_of_beforeEnd? found
    simp only [List.length_singleton] at this
    omega

/-- What a sequence marker on either side of a word leaves; the one in front counts first. -/
def dropSequenceMark? (word : List Char) : Option (List Char) :=
  (afterStart? ['[', ']'] word).or (beforeEnd? ['[', ']'] word)

theorem length_of_dropSequenceMark? {word inner : List Char}
    (h : dropSequenceMark? word = some inner) : inner.length < word.length := by
  rcases Option.or_eq_some_iff.1 h with found | ⟨_, found⟩
  · have := length_of_afterStart? found
    simp only [List.length_cons, List.length_nil] at this
    omega
  · have := length_of_beforeEnd? found
    simp only [List.length_cons, List.length_nil] at this
    omega

/-- The type expression of a type word. `[]` before or after a word makes it a sequence and `?`
makes it optional; what these markers leave is read again. -/
def ofWord (word : List Char) : TypeExpr :=
  match _marked : dropSequenceMark? (trim word) with
  | some inner => .sequence (ofWord inner)
  | none =>
      match _maybe : dropOptionMark? (trim word) with
      | some inner => .optional (ofWord inner)
      | none => ofPlainWord (trim word)
termination_by word.length
decreasing_by
  · have := length_of_dropSequenceMark? _marked
    have := length_trim_le word
    omega
  · have := length_of_dropOptionMark? _maybe
    have := length_trim_le word
    omega

/-- The path of a foreign type as it is written. -/
def pathText (qualifier : List String) (name : String) : String :=
  "::".intercalate (qualifier ++ [name])

end TypeExpr

end DocApi
