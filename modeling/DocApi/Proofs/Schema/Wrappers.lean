import DocApi.Proofs.Schema.Types
import DocApi.Proofs.Source.TypeGrammar
import Mathlib.Logic.Relation

/-!
# Wrapped parts of types

Some wrappers are exchanged like what they wrap, and so are references and parentheses. A declared
type keeps its schema when any of its parts are wrapped, wherever they stand: among arguments that
matter for the schema, and where no schema depends on them.
-/

namespace DocApi

open Source
open Relation (ReflTransGen)

/-! ## Wrapped parts of a type -/

/-- One part of a type is wrapped: put into a wrapper, behind a reference, or between
parentheses. -/
inductive Source.Ty.Wraps : Ty → Ty → Prop
  | wrapper (qualifier : List Ident) {name : Ident}
      (known : name.spelling ∈ TypeExpr.wrapperNames) (type : Ty) (others : List Ty) :
      Ty.Wraps type (.path qualifier name (type :: others))
  | reference (type : Ty) : Ty.Wraps type (.reference type)
  | parentheses (type : Ty) : Ty.Wraps type (.parenthesized type)
  | inArgument (qualifier : List Ident) (name : Ident) (before : List Ty) {argument wrapped : Ty}
      (part : argument.Wraps wrapped) (after : List Ty) :
      Ty.Wraps (.path qualifier name (before ++ argument :: after))
        (.path qualifier name (before ++ wrapped :: after))
  | inReference {target wrapped : Ty} (part : target.Wraps wrapped) :
      Ty.Wraps (.reference target) (.reference wrapped)
  | inParentheses {inner wrapped : Ty} (part : inner.Wraps wrapped) :
      Ty.Wraps (.parenthesized inner) (.parenthesized wrapped)
  | inArray {element wrapped : Ty} (part : element.Wraps wrapped) :
      Ty.Wraps (.array element) (.array wrapped)
  | inSlice {element wrapped : Ty} (part : element.Wraps wrapped) :
      Ty.Wraps (.slice element) (.slice wrapped)

namespace TypeExpr

theorem ofTys_append (first second : List Ty) :
    ofTys (first ++ second) = ofTys first ++ ofTys second := by
  induction first with
  | nil => rfl
  | cons type first induction => simp only [List.cons_append, ofTys, induction]

/-- A type expression does not tell whether one part of a type is wrapped. -/
theorem ofTy_of_wraps {type wrapped : Ty} (wraps : type.Wraps wrapped) :
    ofTy wrapped = ofTy type := by
  induction wraps with
  | wrapper qualifier known type others =>
      rw [ofTy, ofPath_of_wrapper known, ofTys, List.headD_cons]
  | reference type => rw [ofTy]
  | parentheses type => rw [ofTy]
  | inArgument qualifier name before part after induction =>
      simp only [ofTy, ofTys_append, ofTys, induction]
  | inReference part induction => simpa only [ofTy] using induction
  | inParentheses part induction => simpa only [ofTy] using induction
  | inArray part induction => simp only [ofTy, induction]
  | inSlice part induction => simp only [ofTy, induction]

/-- Neither does it tell how many parts are. -/
theorem ofTy_of_wrapped {type wrapped : Ty} (wraps : ReflTransGen Ty.Wraps type wrapped) :
    ofTy wrapped = ofTy type := by
  induction wraps with
  | refl => rfl
  | tail _ last induction => rw [ofTy_of_wraps last, induction]

end TypeExpr

namespace Source

/-! ## Wrapped parts of a written type -/

mutual

/-- One part of a written type is wrapped: put into a wrapper such as `Box<T>` or `Cow<'a, T>`,
behind a reference, or between parentheses. -/
inductive TypeSyntax.Wraps : TypeSyntax → TypeSyntax → Prop
  | wrapper (rooted : Bool) (qualifier : List SegmentSyntax) (name : PathName)
      (known : name.ident.spelling ∈ TypeExpr.wrapperNames) (lifetimes : List Ident)
      (type : TypeSyntax) :
      TypeSyntax.Wraps type (.path rooted (.segments qualifier
        (.angle name (lifetimes.map ArgumentSyntax.lifetime ++ [.type type]))))
  | reference (lifetime : Option Ident) (mutable : Bool) (type : TypeSyntax) :
      TypeSyntax.Wraps type (.reference lifetime mutable type)
  | parentheses (type : TypeSyntax) : TypeSyntax.Wraps type (.parenthesized type)
  | inPath (rooted : Bool) {path wrapped : PathSyntax} (part : path.Wraps wrapped) :
      TypeSyntax.Wraps (.path rooted path) (.path rooted wrapped)
  | inMemberSelf {self wrapped : TypeSyntax} (part : self.Wraps wrapped) (path : PathSyntax) :
      TypeSyntax.Wraps (.member self path) (.member wrapped path)
  | inMember (self : TypeSyntax) {path wrapped : PathSyntax} (part : path.Wraps wrapped) :
      TypeSyntax.Wraps (.member self path) (.member self wrapped)
  | inTraitMemberSelf {self wrapped : TypeSyntax} (part : self.Wraps wrapped) (rooted : Bool)
      (trait path : PathSyntax) :
      TypeSyntax.Wraps (.traitMember self rooted trait path)
        (.traitMember wrapped rooted trait path)
  | inTrait (self : TypeSyntax) (rooted : Bool) {trait wrapped : PathSyntax}
      (part : trait.Wraps wrapped) (path : PathSyntax) :
      TypeSyntax.Wraps (.traitMember self rooted trait path) (.traitMember self rooted wrapped path)
  | inTraitMember (self : TypeSyntax) (rooted : Bool) (trait : PathSyntax)
      {path wrapped : PathSyntax} (part : path.Wraps wrapped) :
      TypeSyntax.Wraps (.traitMember self rooted trait path)
        (.traitMember self rooted trait wrapped)
  | inReference (lifetime : Option Ident) (mutable : Bool) {target wrapped : TypeSyntax}
      (part : target.Wraps wrapped) :
      TypeSyntax.Wraps (.reference lifetime mutable target) (.reference lifetime mutable wrapped)
  | inPointer (mutable : Bool) {target wrapped : TypeSyntax} (part : target.Wraps wrapped) :
      TypeSyntax.Wraps (.pointer mutable target) (.pointer mutable wrapped)
  | inParentheses {inner wrapped : TypeSyntax} (part : inner.Wraps wrapped) :
      TypeSyntax.Wraps (.parenthesized inner) (.parenthesized wrapped)
  | inFirst {first wrapped : TypeSyntax} (part : first.Wraps wrapped) (others : List TypeSyntax) :
      TypeSyntax.Wraps (.tuple first others) (.tuple wrapped others)
  | inOther (first : TypeSyntax) (before : List TypeSyntax) {other wrapped : TypeSyntax}
      (part : other.Wraps wrapped) (after : List TypeSyntax) :
      TypeSyntax.Wraps (.tuple first (before ++ other :: after))
        (.tuple first (before ++ wrapped :: after))
  | inSlice {element wrapped : TypeSyntax} (part : element.Wraps wrapped) :
      TypeSyntax.Wraps (.slice element) (.slice wrapped)
  | inArray {element wrapped : TypeSyntax} (part : element.Wraps wrapped) (length : ArrayLength) :
      TypeSyntax.Wraps (.array element length) (.array wrapped length)
  | inParameter (before : List TypeSyntax) {parameter wrapped : TypeSyntax}
      (part : parameter.Wraps wrapped) (after : List TypeSyntax) (result : TypeSyntax) :
      TypeSyntax.Wraps (.function (before ++ parameter :: after) result)
        (.function (before ++ wrapped :: after) result)
  | inResult (parameters : List TypeSyntax) {result wrapped : TypeSyntax}
      (part : result.Wraps wrapped) :
      TypeSyntax.Wraps (.function parameters result) (.function parameters wrapped)
  | inObject (isHidden rooted : Bool) {trait wrapped : PathSyntax} (part : trait.Wraps wrapped) :
      TypeSyntax.Wraps (.object isHidden rooted trait) (.object isHidden rooted wrapped)

/-- One part of a path is wrapped. -/
inductive PathSyntax.Wraps : PathSyntax → PathSyntax → Prop
  | inQualifier (before : List SegmentSyntax) {segment wrapped : SegmentSyntax}
      (part : segment.Wraps wrapped) (after : List SegmentSyntax) (last : SegmentSyntax) :
      PathSyntax.Wraps (.segments (before ++ segment :: after) last)
        (.segments (before ++ wrapped :: after) last)
  | inLast (qualifier : List SegmentSyntax) {last wrapped : SegmentSyntax}
      (part : last.Wraps wrapped) :
      PathSyntax.Wraps (.segments qualifier last) (.segments qualifier wrapped)

/-- One part of a segment is wrapped. -/
inductive SegmentSyntax.Wraps : SegmentSyntax → SegmentSyntax → Prop
  | inArgument (name : PathName) (before : List ArgumentSyntax) {type wrapped : TypeSyntax}
      (part : type.Wraps wrapped) (after : List ArgumentSyntax) :
      SegmentSyntax.Wraps (.angle name (before ++ .type type :: after))
        (.angle name (before ++ .type wrapped :: after))
  | inBinding (name : PathName) (before : List ArgumentSyntax) (bound : PathName)
      {type wrapped : TypeSyntax} (part : type.Wraps wrapped) (after : List ArgumentSyntax) :
      SegmentSyntax.Wraps (.angle name (before ++ .binding bound type :: after))
        (.angle name (before ++ .binding bound wrapped :: after))

end

theorem typesOf_append (first second : List ArgumentSyntax) :
    typesOf (first ++ second) = typesOf first ++ typesOf second := by
  simp only [typesOf_eq_filterMap, List.filterMap_append]

theorem typesOf_lifetimes (lifetimes : List Ident) :
    typesOf (lifetimes.map ArgumentSyntax.lifetime) = [] := by
  induction lifetimes with
  | nil => rfl
  | cons name lifetimes induction => exact induction

theorem SegmentSyntax.Wraps.ident {segment wrapped : SegmentSyntax}
    (wraps : segment.Wraps wrapped) : wrapped.ident = segment.ident := by
  cases wraps <;> rfl

mutual

/-- When a part of a written type is wrapped, so is a part of what is left of the type, unless
nothing is left of the part. -/
theorem TypeSyntax.Wraps.toTy : {type wrapped : TypeSyntax} → type.Wraps wrapped →
    ReflTransGen Ty.Wraps type.toTy wrapped.toTy
  | _, _, .wrapper rooted qualifier name known lifetimes type => by
      have types :
          typesOf (lifetimes.map ArgumentSyntax.lifetime ++ [.type type]) = [type.toTy] := by
        rw [typesOf_append, typesOf_lifetimes]
        rfl
      simp only [TypeSyntax.toTy, PathSyntax.toTy, SegmentSyntax.types, types]
      exact .single (.wrapper _ known type.toTy [])
  | _, _, .reference lifetime mutable type => .single (.reference type.toTy)
  | _, _, .parentheses type => .single (.parentheses type.toTy)
  | _, _, .inPath rooted part => part.toTy
  | _, _, .inMemberSelf part path => .refl
  | _, _, .inMember self part => .refl
  | _, _, .inTraitMemberSelf part rooted trait path => .refl
  | _, _, .inTrait self rooted part path => .refl
  | _, _, .inTraitMember self rooted trait part => .refl
  | _, _, .inReference lifetime mutable part => part.toTy.lift Ty.reference fun _ _ => .inReference
  | _, _, .inPointer mutable part => .refl
  | _, _, .inParentheses part => part.toTy.lift Ty.parenthesized fun _ _ => .inParentheses
  | _, _, .inFirst part others => .refl
  | _, _, .inOther first before part after => .refl
  | _, _, .inSlice part => part.toTy.lift Ty.slice fun _ _ => .inSlice
  | _, _, .inArray part length => part.toTy.lift Ty.array fun _ _ => .inArray
  | _, _, .inParameter before part after result => .refl
  | _, _, .inResult parameters part => .refl
  | _, _, .inObject isHidden rooted part => .refl

theorem PathSyntax.Wraps.toTy : {path wrapped : PathSyntax} → path.Wraps wrapped →
    ReflTransGen Ty.Wraps path.toTy wrapped.toTy
  | _, _, .inQualifier before part after last => by
      simp only [PathSyntax.toTy, List.map_append, List.map_cons, part.ident]
      exact .refl
  | _, _, .inLast qualifier part => by
      simp only [PathSyntax.toTy, part.ident]
      exact part.types _ _

/-- Of the types among the arguments of a segment, at most one is wrapped. -/
theorem SegmentSyntax.Wraps.types : {segment wrapped : SegmentSyntax} → segment.Wraps wrapped →
    ∀ qualifier name, ReflTransGen Ty.Wraps (.path qualifier name segment.types)
      (.path qualifier name wrapped.types)
  | _, _, .inArgument _ before part after, qualifier, name => by
      simp only [SegmentSyntax.types, typesOf_append, typesOf]
      exact part.toTy.lift
        (fun type => Ty.path qualifier name (typesOf before ++ type :: typesOf after))
        fun _ _ part => .inArgument qualifier name (typesOf before) part (typesOf after)
  | _, _, .inBinding _ before bound part after, qualifier, name => by
      simp only [SegmentSyntax.types, typesOf_append, typesOf]
      exact .refl

end

theorem TypeSyntax.toTy_of_wrapped {type wrapped : TypeSyntax}
    (wraps : ReflTransGen TypeSyntax.Wraps type wrapped) :
    ReflTransGen Ty.Wraps type.toTy wrapped.toTy := by
  induction wraps with
  | refl => exact .refl
  | tail _ last induction => exact induction.trans last.toTy

end Source

/-! ## Wrapped types and their schemas -/

/-- A type keeps its type expression, and so its schema, when any number of its parts are wrapped.
The same holds for what is written: two texts, one with the trees of a type and one with those of
the type with wrapped parts, even in places of which the type has nothing left, are both read, as
types with the same type expression. -/
theorem type_of_wrapped_parts :
    (∀ type wrapped : Ty, ReflTransGen Ty.Wraps type wrapped →
      TypeExpr.ofTy wrapped = .ofTy type ∧
        Schema.ofType (.ofTy wrapped) = .ofType (.ofTy type)) ∧
    ∀ (type wrapped : TypeSyntax) (joint joint' : Char → List Tree → Bool) (text text' : List Char),
      ReflTransGen TypeSyntax.Wraps type wrapped →
        trees? text = some (type.write joint []) → trees? text' = some (wrapped.write joint' []) →
          ∃ read read', Ty.parse? text = some read ∧ Ty.parse? text' = some read' ∧
            TypeExpr.ofTy read' = .ofTy read ∧
              Schema.ofType (.ofTy read') = .ofType (.ofTy read) := by
  have same : ∀ type wrapped : Ty, ReflTransGen Ty.Wraps type wrapped →
      TypeExpr.ofTy wrapped = .ofTy type ∧
        Schema.ofType (.ofTy wrapped) = .ofType (.ofTy type) := by
    intro type wrapped wraps
    have expression := TypeExpr.ofTy_of_wrapped wraps
    exact ⟨expression, by rw [expression]⟩
  refine ⟨same, fun type wrapped joint joint' text text' wraps written written' => ?_⟩
  exact ⟨type.toTy, wrapped.toTy, type.parse?_of_trees joint written,
    wrapped.parse?_of_trees joint' written',
    same type.toTy wrapped.toTy (TypeSyntax.toTy_of_wrapped wraps)⟩

/-- A plain word as a name in a path. -/
def wordName (word : String) (nonempty : word ≠ "") (free : word ∉ keywords) : PathName where
  ident := ⟨word, false, nonempty⟩
  usable := .inl (by simpa [Ident.isFree] using free)

/-- The type `Key<..>` with one part. -/
def keyType (inner : TypeSyntax) : TypeSyntax :=
  .path false (.segments [] (.angle (wordName "Key" (by decide) (by decide)) [.type inner]))

/-- The type `BTreeMap<Key<..>, [..; 2]>` with two parts. -/
def keyedPairs (key element : TypeSyntax) : TypeSyntax :=
  .path false (.segments [] (.angle (wordName "BTreeMap" (by decide) (by decide))
    [.type (keyType key), .type (.array element (.literal (.integer 2 "")))]))

theorem wraps_key {key wrapped : TypeSyntax} (part : key.Wraps wrapped) (element : TypeSyntax) :
    (keyedPairs key element).Wraps (keyedPairs wrapped element) :=
  .inPath false (.inLast [] (.inArgument _ []
    (.inPath false (.inLast [] (.inArgument _ [] part []))) _))

theorem wraps_element (key : TypeSyntax) {element wrapped : TypeSyntax}
    (part : element.Wraps wrapped) :
    (keyedPairs key element).Wraps (keyedPairs key wrapped) :=
  .inPath false (.inLast [] (.inArgument _ [_] (.inArray part _) []))

/-- The type of bytes. -/
def byteType : TypeSyntax := Grammar.nameType (wordName "u8" (by decide) (by decide))

/-- The type of a model. -/
def petType : TypeSyntax := Grammar.nameType (wordName "Pet" (by decide) (by decide))

/-- A model in a wrapper with a lifetime. -/
def cowPetType : TypeSyntax :=
  .path false (.segments [] (.angle (wordName "Cow" (by decide) (by decide))
    [.lifetime ⟨"a", false, by decide⟩, .type petType]))

theorem type_of_wrapped_pairs : ∃ read read',
    Ty.parse? "BTreeMap<Key<u8>, [Pet; 2]>".toList = some read ∧
      Ty.parse? "BTreeMap<Key<&u8>, [Cow<'a, Pet>; 2]>".toList = some read' ∧
        TypeExpr.ofTy read' = .ofTy read ∧
          Schema.ofType (.ofTy read') = .ofType (.ofTy read) :=
  type_of_wrapped_parts.2 (keyedPairs byteType petType)
    (keyedPairs (.reference none false byteType) cowPetType) closeSet closeSet _ _
    ((ReflTransGen.single (wraps_key (.reference none false byteType) petType)).tail
      (wraps_element _ (.wrapper false [] (wordName "Cow" (by decide) (by decide)) (by decide)
        [⟨"a", false, by decide⟩] petType)))
    rfl rfl

end DocApi
