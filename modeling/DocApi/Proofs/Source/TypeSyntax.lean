import DocApi.Source.Parser

/-!
# The syntax of declared types

A declared type holds more than its schema can depend on: lifetimes and constants among its
arguments, arguments of the words before the last one of a path, the parts of tuples and functions.
Here a type is kept with all of that, as it is written: its trees are those of the written text, and
its type is what is left of it.
-/

namespace DocApi.Source

/-! ## Names -/

/-- A name in a path: an identifier that is no keyword, or `Self`. -/
structure PathName where
  ident : Ident
  usable : ident.isFree = true ∨ ident.isWord "Self" = true

/-- The words that a path within a library starts with. -/
inductive RootWord where
  | crate | self | super

/-- A root word as an identifier. -/
def RootWord.ident : RootWord → Ident
  | crate => ⟨"crate", false, by decide⟩
  | self => ⟨"self", false, by decide⟩
  | super => ⟨"super", false, by decide⟩

/-- A keyword as a tree. -/
def keyword (word : String) (nonempty : word ≠ "") : Tree := .ident ⟨word, false, nonempty⟩

/-- The length of an array: trees that are read as an expression. -/
structure ArrayLength where
  trees : List Tree
  reads : ∀ {depth : Nat} (stray : Bool) (found : List Item), 16 * (treesSize trees + 1) ≤ depth →
    ∃ shape, (Grammar.ofDepth depth).expr true ⟨trees, stray, found⟩ =
      some (shape, ⟨[], stray, found⟩)

/-- A number or another literal as a length. -/
def ArrayLength.literal (literal : Literal) : ArrayLength where
  trees := [.literal literal]
  reads := by
    intro depth stray found deep
    simp only [treesSize, Tree.size] at deep
    obtain ⟨depth, rfl⟩ : ∃ others, depth = others + 3 := ⟨depth - 3, by omega⟩
    have read : (Grammar.ofDepth (depth + 3)).expr true ⟨[.literal literal], stray, found⟩ =
        some (.other, ⟨[], stray, found ++ [] ++ []⟩) := rfl
    exact ⟨.other, by simpa only [List.append_nil] using read⟩

/-! ## Types -/

mutual

/-- A declared type. -/
inductive TypeSyntax where
  /-- A path such as `Vec<u8>`, `crate::pets::Pet` or, when it is rooted, `::time::Date` -/
  | path (rooted : Bool) (path : PathSyntax)
  /-- `<T>::Item` -/
  | member (self : TypeSyntax) (path : PathSyntax)
  /-- `<T as iter::Iterator>::Item` -/
  | traitMember (self : TypeSyntax) (rooted : Bool) (trait path : PathSyntax)
  /-- `&T`, with or without a lifetime and `mut` -/
  | reference (lifetime : Option Ident) (mutable : Bool) (target : TypeSyntax)
  /-- `*const T` or `*mut T` -/
  | pointer (mutable : Bool) (target : TypeSyntax)
  /-- `(T)` -/
  | parenthesized (inner : TypeSyntax)
  /-- `()` -/
  | unit
  /-- `(T,)`, `(T, U)` and so on -/
  | tuple (first : TypeSyntax) (others : List TypeSyntax)
  /-- `[T]` -/
  | slice (element : TypeSyntax)
  /-- `[T; 16]` -/
  | array (element : TypeSyntax) (length : ArrayLength)
  /-- `fn(T, U) -> V` -/
  | function (parameters : List TypeSyntax) (result : TypeSyntax)
  /-- `dyn Trait<T>`, or `impl Trait<T>` when it is hidden -/
  | object (isHidden rooted : Bool) (trait : PathSyntax)
  /-- `!` -/
  | never
  /-- `_` -/
  | inferred

/-- The segments of a path. -/
inductive PathSyntax where
  | segments (qualifier : List SegmentSyntax) (last : SegmentSyntax)

/-- A segment of a path. -/
inductive SegmentSyntax where
  | root (word : RootWord)
  | plain (name : PathName)
  | angle (name : PathName) (arguments : List ArgumentSyntax)

/-- An argument of a segment. -/
inductive ArgumentSyntax where
  /-- `'a` -/
  | lifetime (name : Ident)
  | constant (literal : Literal)
  | type (type : TypeSyntax)
  /-- `Item = T` -/
  | binding (name : PathName) (type : TypeSyntax)

end

/-! ## Trees -/

section Trees

variable (joint : Char → List Tree → Bool)

/-- A mark in front of other trees; `joint` tells whether another mark follows it at once. -/
def markThen (mark : Char) (rest : List Tree) : List Tree := .punct mark (joint mark rest) :: rest

/-- Two colons in front of other trees. -/
def colonsThen (rest : List Tree) : List Tree := .punct ':' true :: markThen joint ':' rest

/-- The colons in front of a path, when it is rooted. -/
def rootThen (rooted : Bool) (path : List Tree) : List Tree :=
  if rooted then colonsThen joint path else path

/-- A lifetime in front of other trees. -/
def lifetimeThen (name : Ident) (rest : List Tree) : List Tree :=
  .punct '\'' true :: .ident name :: rest

/-- A lifetime in front of other trees, when there is one. -/
def lifetimeThen? (lifetime : Option Ident) (rest : List Tree) : List Tree :=
  match lifetime with
  | some name => lifetimeThen name rest
  | none => rest

/-- The word `mut` in front of other trees, when it is there. -/
def mutThen (mutable : Bool) (rest : List Tree) : List Tree :=
  if mutable then keyword "mut" (by decide) :: rest else rest

/-- The word in front of the target of a pointer. -/
def pointerWord (mutable : Bool) : Tree :=
  if mutable then keyword "mut" (by decide) else keyword "const" (by decide)

/-- The word in front of a trait that stands for a type. -/
def objectWord (isHidden : Bool) : Tree :=
  if isHidden then keyword "impl" (by decide) else keyword "dyn" (by decide)

mutual

/-- The trees of a type in front of other trees. -/
def TypeSyntax.write : TypeSyntax → List Tree → List Tree
  | .path rooted path, rest => rootThen joint rooted (path.write rest)
  | .member self path, rest =>
      markThen joint '<' (self.write (markThen joint '>' (colonsThen joint (path.write rest))))
  | .traitMember self rooted trait path, rest =>
      markThen joint '<' (self.write (keyword "as" (by decide) ::
        rootThen joint rooted (trait.write
          (markThen joint '>' (colonsThen joint (path.write rest))))))
  | .reference lifetime mutable target, rest =>
      markThen joint '&' (lifetimeThen? lifetime (mutThen mutable (target.write rest)))
  | .pointer mutable target, rest => markThen joint '*' (pointerWord mutable :: target.write rest)
  | .parenthesized inner, rest => .group .paren (inner.write []) :: rest
  | .unit, rest => .group .paren [] :: rest
  | .tuple first others, rest =>
      .group .paren (first.write (markThen joint ',' (writeTypes others))) :: rest
  | .slice element, rest => .group .bracket (element.write []) :: rest
  | .array element length, rest =>
      .group .bracket (element.write (markThen joint ';' length.trees)) :: rest
  | .function parameters result, rest =>
      keyword "fn" (by decide) :: .group .paren (writeTypes parameters) :: .punct '-' true ::
        markThen joint '>' (result.write rest)
  | .object isHidden rooted trait, rest =>
      objectWord isHidden :: rootThen joint rooted (trait.write rest)
  | .never, rest => markThen joint '!' rest
  | .inferred, rest => keyword "_" (by decide) :: rest

/-- The trees of types that are separated by commas. -/
def writeTypes : List TypeSyntax → List Tree
  | [] => []
  | first :: others => first.write (writeMoreTypes others)

/-- The trees of types that follow another one. -/
def writeMoreTypes : List TypeSyntax → List Tree
  | [] => []
  | next :: others => markThen joint ',' (next.write (writeMoreTypes others))

/-- The trees of a path in front of other trees. -/
def PathSyntax.write : PathSyntax → List Tree → List Tree
  | .segments qualifier last, rest => writeQualifier qualifier (last.write rest)

/-- The trees of segments in front of another one. -/
def writeQualifier : List SegmentSyntax → List Tree → List Tree
  | [], rest => rest
  | segment :: others, rest => segment.write (colonsThen joint (writeQualifier others rest))

/-- The trees of a segment in front of other trees. -/
def SegmentSyntax.write : SegmentSyntax → List Tree → List Tree
  | .root word, rest => .ident word.ident :: rest
  | .plain name, rest => .ident name.ident :: rest
  | .angle name arguments, rest =>
      .ident name.ident :: markThen joint '<' (writeArguments arguments rest)

/-- The trees of an argument in front of other trees. -/
def ArgumentSyntax.write : ArgumentSyntax → List Tree → List Tree
  | .lifetime name, rest => lifetimeThen name rest
  | .constant literal, rest => .literal literal :: rest
  | .type type, rest => type.write rest
  | .binding name type, rest => .ident name.ident :: markThen joint '=' (type.write rest)

/-- The trees of arguments up to the end of the brackets, in front of other trees. -/
def writeArguments : List ArgumentSyntax → List Tree → List Tree
  | [], rest => markThen joint '>' rest
  | first :: others, rest => first.write (writeMoreArguments others rest)

/-- The trees of arguments that follow another one. -/
def writeMoreArguments : List ArgumentSyntax → List Tree → List Tree
  | [], rest => markThen joint '>' rest
  | next :: others, rest => markThen joint ',' (next.write (writeMoreArguments others rest))

end

end Trees

/-! ## What is left of a type -/

/-- The identifier of a segment. -/
def SegmentSyntax.ident : SegmentSyntax → Ident
  | .root word => word.ident
  | .plain name => name.ident
  | .angle name _ => name.ident

mutual

/-- The type that is written. -/
def TypeSyntax.toTy : TypeSyntax → Ty
  | .path _ path => path.toTy
  | .reference _ _ target => .reference target.toTy
  | .parenthesized inner => .parenthesized inner.toTy
  | .slice element => .slice element.toTy
  | .array element _ => .array element.toTy
  | _ => .other

/-- The type that a path names. -/
def PathSyntax.toTy : PathSyntax → Ty
  | .segments qualifier last => .path (qualifier.map SegmentSyntax.ident) last.ident last.types

/-- The types among the arguments of a segment. -/
def SegmentSyntax.types : SegmentSyntax → List Ty
  | .angle _ arguments => typesOf arguments
  | _ => []

/-- The types among arguments. -/
def typesOf : List ArgumentSyntax → List Ty
  | [] => []
  | .type type :: arguments => type.toTy :: typesOf arguments
  | _ :: arguments => typesOf arguments

end

end DocApi.Source
