import DocApi.Proofs.Source.Running
import DocApi.Proofs.Source.TypeSyntax

/-!
# The trees of declared types

How many trees a declared type is written with, what they start with, and what may follow them.
-/

namespace DocApi.Source

/-! ## Sizes -/

mutual

/-- The number of names, marks and groups in a type, or fewer. -/
def TypeSyntax.size : TypeSyntax → Nat
  | .path _ path => path.size
  | .member self path => self.size + path.size + 1
  | .traitMember self _ trait path => self.size + trait.size + path.size + 1
  | .reference _ _ target => target.size + 1
  | .pointer _ target => target.size + 1
  | .parenthesized inner => inner.size + 1
  | .unit => 1
  | .tuple first others => first.size + typesSize others + 1
  | .slice element => element.size + 1
  | .array element length => element.size + treesSize length.trees + 2
  | .function parameters result => typesSize parameters + result.size + 1
  | .object _ _ trait => trait.size + 1
  | .never => 1
  | .inferred => 1

/-- The size of types. -/
def typesSize : List TypeSyntax → Nat
  | [] => 0
  | type :: types => type.size + typesSize types

/-- The size of a path. -/
def PathSyntax.size : PathSyntax → Nat
  | .segments qualifier last => qualifierSize qualifier + last.size

/-- The size of segments. -/
def qualifierSize : List SegmentSyntax → Nat
  | [] => 0
  | segment :: segments => segment.size + qualifierSize segments

/-- The size of a segment. -/
def SegmentSyntax.size : SegmentSyntax → Nat
  | .angle _ arguments => argumentsSize arguments + 1
  | _ => 1

/-- The size of an argument. -/
def ArgumentSyntax.size : ArgumentSyntax → Nat
  | .type type => type.size
  | .binding _ type => type.size
  | _ => 0

/-- The size of arguments. -/
def argumentsSize : List ArgumentSyntax → Nat
  | [] => 0
  | argument :: arguments => argument.size + argumentsSize arguments

end

theorem SegmentSyntax.size_pos (segment : SegmentSyntax) : 0 < segment.size := by
  cases segment <;> simp [SegmentSyntax.size]

theorem PathSyntax.size_pos (path : PathSyntax) : 0 < path.size := by
  obtain ⟨qualifier, last⟩ := path
  exact Nat.add_pos_right _ last.size_pos

theorem TypeSyntax.size_pos (type : TypeSyntax) : 0 < type.size := by
  cases type with
  | path rooted segments => exact segments.size_pos
  | _ => simp [TypeSyntax.size]

/-- Trees that go on with `rest` after at least as many trees as the size says. -/
structure Precedes (size : Nat) (rest trees : List Tree) : Prop where
  size_le : size + treesSize rest ≤ treesSize trees
  length_le : rest.length ≤ trees.length

namespace Precedes

variable {size : Nat} {rest trees : List Tree}

theorem refl (rest : List Tree) : Precedes 0 rest rest := ⟨by omega, Nat.le_refl _⟩

theorem cons (tree : Tree) (precedes : Precedes size rest trees) :
    Precedes (size + 1) rest (tree :: trees) := by
  obtain ⟨size_le, length_le⟩ := precedes
  have positive : 1 ≤ tree.size := by cases tree <;> simp [Tree.size]
  refine ⟨?_, ?_⟩
  · simp only [treesSize]
    omega
  · simp only [List.length_cons]
    omega

theorem group (delimiter : Delimiter) {body : List Tree} (inside : Precedes size [] body)
    (rest : List Tree) : Precedes (size + 1) rest (.group delimiter body :: rest) := by
  have body_le := inside.size_le
  simp only [treesSize] at body_le
  refine ⟨?_, ?_⟩
  · simp only [treesSize, Tree.size]
    omega
  · exact Nat.le_succ _

theorem trans {first second : Nat} {rest middle trees : List Tree}
    (front : Precedes first middle trees) (back : Precedes second rest middle) :
    Precedes (first + second) rest trees := by
  have front_le := front.size_le
  have back_le := back.size_le
  exact ⟨by omega, Nat.le_trans back.length_le front.length_le⟩

theorem markThen (precedes : Precedes size rest trees) (joint : Char → List Tree → Bool)
    (mark : Char) : Precedes (size + 1) rest (markThen joint mark trees) :=
  precedes.cons _

theorem mono {smaller : Nat} (precedes : Precedes size rest trees) (le : smaller ≤ size) :
    Precedes smaller rest trees := by
  have size_le := precedes.size_le
  exact ⟨by omega, precedes.length_le⟩

end Precedes

section Trees

variable (joint : Char → List Tree → Bool)

theorem precedes_colonsThen (rest : List Tree) : Precedes 2 rest (colonsThen joint rest) :=
  ((Precedes.refl rest).cons _).cons _

theorem precedes_rootThen (rooted : Bool) (path : List Tree) :
    Precedes 0 path (rootThen joint rooted path) := by
  cases rooted with
  | false => exact .refl path
  | true => exact (precedes_colonsThen joint path).mono (Nat.zero_le 2)

theorem precedes_lifetimeThen? (lifetime : Option Ident) (rest : List Tree) :
    Precedes 0 rest (lifetimeThen? lifetime rest) := by
  cases lifetime with
  | none => exact .refl rest
  | some name => exact (((Precedes.refl rest).cons _).cons _).mono (Nat.zero_le 2)

theorem precedes_mutThen (mutable : Bool) (rest : List Tree) :
    Precedes 0 rest (mutThen mutable rest) := by
  cases mutable with
  | false => exact .refl rest
  | true => exact ((Precedes.refl rest).cons _).mono (Nat.zero_le 1)

mutual

theorem TypeSyntax.precedes_write : (type : TypeSyntax) → (rest : List Tree) →
    Precedes type.size rest (type.write joint rest)
  | .path rooted path, rest =>
      ((precedes_rootThen joint rooted _).trans (path.precedes_write rest)).mono
        (Nat.le_add_left _ 0)
  | .member self path, rest => by
      have after := (precedes_colonsThen joint _).trans (path.precedes_write rest)
      have inside := (self.precedes_write _).trans (after.markThen joint '>')
      exact (inside.markThen joint '<').mono (by simp only [TypeSyntax.size]; omega)
  | .traitMember self rooted trait path, rest => by
      have after := (precedes_colonsThen joint _).trans (path.precedes_write rest)
      have bound := (precedes_rootThen joint rooted _).trans
        ((trait.precedes_write _).trans (after.markThen joint '>'))
      have inside := (self.precedes_write _).trans (bound.cons (keyword "as" (by decide)))
      exact (inside.markThen joint '<').mono (by simp only [TypeSyntax.size]; omega)
  | .reference lifetime mutable target, rest => by
      have place := (precedes_mutThen mutable _).trans (target.precedes_write rest)
      have named := (precedes_lifetimeThen? lifetime _).trans place
      exact (named.markThen joint '&').mono (by simp only [TypeSyntax.size]; omega)
  | .pointer mutable target, rest =>
      (((target.precedes_write rest).cons _).markThen joint '*').mono (Nat.le_succ _)
  | .parenthesized inner, rest => (inner.precedes_write []).group .paren rest
  | .unit, rest => (Precedes.refl []).group .paren rest
  | .tuple first others, rest => by
      have inside := (first.precedes_write _).trans
        ((precedes_writeTypes others).markThen joint ',')
      exact (inside.group .paren rest).mono (by simp only [TypeSyntax.size]; omega)
  | .slice element, rest => (element.precedes_write []).group .bracket rest
  | .array element length, rest => by
      have trees : Precedes (treesSize length.trees) [] length.trees :=
        ⟨by simp [treesSize], Nat.zero_le _⟩
      have inside := (element.precedes_write _).trans (trees.markThen joint ';')
      exact (inside.group .bracket rest).mono (by simp only [TypeSyntax.size]; omega)
  | .function parameters result, rest => by
      have arrow := ((result.precedes_write rest).markThen joint '>').cons (.punct '-' true)
      have whole := ((precedes_writeTypes parameters).group .paren _).trans arrow
      exact (whole.cons _).mono (by simp only [TypeSyntax.size]; omega)
  | .object isHidden rooted trait, rest => by
      have bound := (precedes_rootThen joint rooted _).trans (trait.precedes_write rest)
      exact (bound.cons _).mono (by simp only [TypeSyntax.size]; omega)
  | .never, rest => (Precedes.refl rest).cons _
  | .inferred, rest => (Precedes.refl rest).cons _

theorem precedes_writeTypes : (types : List TypeSyntax) →
    Precedes (typesSize types) [] (writeTypes joint types)
  | [] => .refl []
  | type :: types => (type.precedes_write _).trans (precedes_writeMoreTypes types)

theorem precedes_writeMoreTypes : (types : List TypeSyntax) →
    Precedes (typesSize types) [] (writeMoreTypes joint types)
  | [] => .refl []
  | type :: types =>
      (((type.precedes_write _).trans (precedes_writeMoreTypes types)).cons _).mono (Nat.le_succ _)

theorem PathSyntax.precedes_write : (path : PathSyntax) → (rest : List Tree) →
    Precedes path.size rest (path.write joint rest)
  | .segments qualifier last, rest =>
      (precedes_writeQualifier qualifier _).trans (last.precedes_write rest)

theorem precedes_writeQualifier : (qualifier : List SegmentSyntax) → (rest : List Tree) →
    Precedes (qualifierSize qualifier) rest (writeQualifier joint qualifier rest)
  | [], rest => .refl rest
  | segment :: segments, rest => by
      have others := (precedes_colonsThen joint _).trans (precedes_writeQualifier segments rest)
      exact ((segment.precedes_write _).trans others).mono (by simp only [qualifierSize]; omega)

theorem SegmentSyntax.precedes_write : (segment : SegmentSyntax) → (rest : List Tree) →
    Precedes segment.size rest (segment.write joint rest)
  | .root _, rest => (Precedes.refl rest).cons _
  | .plain _, rest => (Precedes.refl rest).cons _
  | .angle _ arguments, rest =>
      (((precedes_writeArguments arguments rest).markThen joint '<').cons _).mono (Nat.le_succ _)

theorem ArgumentSyntax.precedes_write : (argument : ArgumentSyntax) → (rest : List Tree) →
    Precedes argument.size rest (argument.write joint rest)
  | .lifetime _, rest => (((Precedes.refl rest).cons _).cons _).mono (Nat.zero_le 2)
  | .constant _, rest => ((Precedes.refl rest).cons _).mono (Nat.zero_le 1)
  | .type type, rest => type.precedes_write rest
  | .binding _ type, rest =>
      (((type.precedes_write rest).cons _).cons _).mono
        (by simp only [ArgumentSyntax.size]; omega)

theorem precedes_writeArguments : (arguments : List ArgumentSyntax) → (rest : List Tree) →
    Precedes (argumentsSize arguments) rest (writeArguments joint arguments rest)
  | [], rest => ((Precedes.refl rest).cons _).mono (Nat.zero_le 1)
  | argument :: arguments, rest =>
      (argument.precedes_write _).trans (precedes_writeMoreArguments arguments rest)

theorem precedes_writeMoreArguments : (arguments : List ArgumentSyntax) → (rest : List Tree) →
    Precedes (argumentsSize arguments) rest (writeMoreArguments joint arguments rest)
  | [], rest => ((Precedes.refl rest).cons _).mono (Nat.zero_le 1)
  | argument :: arguments, rest =>
      (((argument.precedes_write _).trans (precedes_writeMoreArguments arguments rest)).cons _).mono
        (Nat.le_succ _)

end

end Trees

/-! ## What follows a type -/

/-- What may follow a type: no mark that the type would go on with, and no parentheses. -/
structure EndsType (trees : List Tree) : Prop where
  mark : ∀ mark ∈ ['<', ':', '!', '+', '#'], startsPunct [mark] trees = false
  call : isGroup .paren trees = false

namespace EndsType

theorem nil : EndsType [] := ⟨fun _ _ => rfl, rfl⟩

theorem punct {mark : Char} (other : mark ∉ ['<', ':', '!', '+', '#']) (joint : Bool)
    (trees : List Tree) : EndsType (.punct mark joint :: trees) where
  mark c known := startsPunct_of_ne (by rintro rfl; exact other known) [] joint trees
  call := rfl

theorem ident (ident : Ident) (trees : List Tree) : EndsType (.ident ident :: trees) :=
  ⟨fun _ _ => rfl, rfl⟩

theorem startsPunct {trees : List Tree} (ends : EndsType trees) {mark : Char}
    (known : mark ∈ ['<', ':', '!', '+', '#']) (marks : List Char) :
    startsPunct (mark :: marks) trees = false :=
  startsPunct_of_first (ends.mark mark known) marks

end EndsType

/-- What may follow a word at the start of a type: two colons, or neither a colon nor `#`. -/
inductive FollowsWord : List Tree → Prop
  | colons (joint : Bool) (trees : List Tree) :
      FollowsWord (.punct ':' true :: .punct ':' joint :: trees)
  | other {trees : List Tree} (colon : startsPunct [':'] trees = false)
      (hash : startsPunct ['#'] trees = false) : FollowsWord trees

theorem EndsType.followsWord {trees : List Tree} (ends : EndsType trees) : FollowsWord trees :=
  .other (ends.mark ':' (by decide)) (ends.mark '#' (by decide))

theorem FollowsWord.hash {trees : List Tree} (follows : FollowsWord trees) :
    isPunct "#" trees = false := by
  cases follows with
  | colons joint trees => rfl
  | other _ hash => exact hash

/-- The word is no name in front of a colon. -/
theorem FollowsWord.unnamed {trees : List Tree} (follows : FollowsWord trees) :
    (isPunct ":" trees && !isPunct "::" trees) = false := by
  cases follows with
  | colons joint trees => rfl
  | other colon _ =>
      have absent : isPunct ":" trees = false := colon
      rw [absent, Bool.false_and]

/-- The word is no name in front of a colon and dots. -/
theorem FollowsWord.noDots {trees : List Tree} (follows : FollowsWord trees) :
    (isPunct ":" trees && second (isPunct "...") trees) = false := by
  cases follows with
  | colons joint trees => rfl
  | other colon _ =>
      have absent : isPunct ":" trees = false := colon
      rw [absent, Bool.false_and]

/-! ## What a type starts with -/

/-- The keywords that a path may start with. -/
def pathWords : List String := ["Self", "crate", "self", "super"]

/-- The keywords that a type without a path in front may start with. -/
def typeWords : List String := ["fn", "dyn", "impl", "_"]

/-- An identifier that is no keyword, or one of the known ones. -/
def Ident.Usable (known : List String) (ident : Ident) : Prop :=
  ident.isFree = true ∨ ∃ word ∈ known, ident.isWord word = true

theorem Ident.Usable.isWord {known : List String} {ident : Ident} (usable : ident.Usable known)
    {word : String} (keyword : word ∈ keywords) (other : word ∉ known) :
    ident.isWord word = false := by
  refine Bool.eq_false_iff.2 fun isWord => ?_
  simp only [Ident.isWord, Bool.and_eq_true, Bool.not_eq_true', beq_iff_eq] at isWord
  obtain ⟨plain, rfl⟩ := isWord
  rcases usable with free | ⟨text, member, same⟩
  · simp [Ident.isFree, plain, keyword] at free
  · simp only [Ident.isWord, Bool.and_eq_true, beq_iff_eq] at same
    exact other (same.2 ▸ member)

theorem Ident.Usable.mono {known more : List String} {ident : Ident} (usable : ident.Usable known)
    (subset : known ⊆ more) : ident.Usable more :=
  usable.imp_right fun ⟨word, member, isWord⟩ => ⟨word, subset member, isWord⟩

/-- Trees that start with a segment of a path. -/
inductive StartsSegment : List Tree → Prop
  | word {ident : Ident} (usable : ident.Usable pathWords) {trees : List Tree}
      (follows : FollowsWord trees) : StartsSegment (.ident ident :: trees)

theorem StartsSegment.startsPunct {trees : List Tree} (starts : StartsSegment trees) (mark : Char)
    (marks : List Char) : startsPunct (mark :: marks) trees = false := by
  cases starts with
  | word usable follows => exact startsPunct_ident mark marks _ _

/-- Trees that start with a type. -/
inductive StartsType : List Tree → Prop
  | word {ident : Ident} (usable : ident.Usable (pathWords ++ typeWords)) {trees : List Tree}
      (follows : FollowsWord trees) : StartsType (.ident ident :: trees)
  | mark {mark : Char} (known : mark ∈ [':', '&', '*', '!']) (joint : Bool) (trees : List Tree) :
      StartsType (.punct mark joint :: trees)
  | angle (joint : Bool) {trees : List Tree} (inside : startsPunct ['='] trees = false) :
      StartsType (.punct '<' joint :: trees)
  | group {delimiter : Delimiter} (known : delimiter ≠ .brace) (body trees : List Tree) :
      StartsType (.group delimiter body :: trees)

namespace StartsType

variable {trees : List Tree}

theorem startsPunct (starts : StartsType trees) {mark : Char}
    (other : mark ∉ [':', '<', '&', '*', '!']) (marks : List Char) :
    startsPunct (mark :: marks) trees = false := by
  cases starts with
  | word usable follows => exact startsPunct_ident mark marks _ _
  | mark known joint trees =>
      refine startsPunct_of_ne (fun same => other ?_) marks joint trees
      subst same
      revert known
      simp +contextual [or_imp]
  | angle joint inside =>
      exact startsPunct_of_ne (by rintro rfl; exact other (by decide)) marks joint _
  | group known body trees => exact startsPunct_group mark marks _ _ _

/-- A type starts with no comparison. -/
theorem startsPunct_less (starts : StartsType trees) :
    DocApi.Source.startsPunct ['<', '='] trees = false := by
  cases starts with
  | word usable follows => rfl
  | mark known joint trees =>
      refine startsPunct_of_ne (fun same => ?_) ['='] joint trees
      subst same
      revert known
      decide
  | angle joint inside => rw [startsPunct_cons_cons, inside, Bool.and_false]
  | group known body trees => rfl

theorem isLifetime (starts : StartsType trees) : isLifetime trees = false := by
  cases starts with
  | word usable follows => rfl
  | mark known joint trees =>
      simp only [List.mem_cons, List.not_mem_nil, or_false] at known
      rcases known with rfl | rfl | rfl | rfl <;> rfl
  | angle joint inside => rfl
  | group known body trees => rfl

/-- A type starts with no keyword but those that stand for types. -/
theorem isWord (starts : StartsType trees) {word : String} (keyword : word ∈ keywords)
    (other : word ∉ pathWords ++ typeWords) : isWord word trees = false := by
  cases starts with
  | word usable follows => exact usable.isWord keyword other
  | mark known joint trees => rfl
  | angle joint inside => rfl
  | group known body trees => rfl

/-- A type starts neither with a literal nor with a block. -/
theorem isConstant (starts : StartsType trees) :
    (isLiteral trees || isGroup .brace trees) = false := by
  cases starts with
  | word usable follows =>
      have noTrue := usable.isWord (show "true" ∈ keywords by decide) (by decide)
      have noFalse := usable.isWord (show "false" ∈ keywords by decide) (by decide)
      simp [isLiteral, isGroup, noTrue, noFalse]
  | mark known joint trees =>
      simp only [List.mem_cons, List.not_mem_nil, or_false] at known
      rcases known with rfl | rfl | rfl | rfl <;> rfl
  | angle joint inside => rfl
  | group known body trees => simpa [isLiteral, isGroup] using known

theorem isEmpty (starts : StartsType trees) : trees.isEmpty = false := by
  cases starts <;> rfl

/-- As a parameter of a function, a type is no name in front of another type. -/
theorem unnamed (starts : StartsType trees) (allowSelf : Bool) :
    ((isIdent trees || DocApi.Source.isWord "_" trees ||
      (allowSelf && DocApi.Source.isWord "self" trees)) && second (isPunct ":") trees &&
        !second (isPunct "::") trees) = false := by
  cases starts with
  | word usable follows =>
      rw [Bool.and_assoc]
      exact (congrArg _ follows.unnamed).trans (Bool.and_false _)
  | mark known joint trees => simp [isIdent, DocApi.Source.isWord]
  | angle joint inside => simp [isIdent, DocApi.Source.isWord]
  | group known body trees => simp [isIdent, DocApi.Source.isWord]

/-- A type does not start with the dots that end the parameters of a function. -/
theorem variadicAhead (starts : StartsType trees) : Grammar.variadicAhead trees = false := by
  have dots : isPunct "..." trees = false := starts.startsPunct (by decide) ['.', '.']
  unfold Grammar.variadicAhead
  rw [dots, Bool.false_or]
  cases starts with
  | word usable follows =>
      rw [Bool.and_assoc]
      exact (congrArg _ follows.noDots).trans (Bool.and_false _)
  | mark known joint trees => simp [isIdent, DocApi.Source.isWord]
  | angle joint inside => simp [isIdent, DocApi.Source.isWord]
  | group known body trees => simp [isIdent, DocApi.Source.isWord]

end StartsType

/-! ## How the trees of a type start -/

theorem RootWord.usable (word : RootWord) : word.ident.Usable pathWords := by
  refine Or.inr ?_
  cases word with
  | crate => exact ⟨"crate", by decide, by decide⟩
  | self => exact ⟨"self", by decide, by decide⟩
  | super => exact ⟨"super", by decide, by decide⟩

theorem PathName.usable_pathWords (name : PathName) : name.ident.Usable pathWords :=
  name.usable.imp_right fun isSelf => ⟨"Self", by decide, isSelf⟩

theorem usable_keyword {word : String} (known : word ∈ typeWords) (nonempty : word ≠ "") :
    (⟨word, false, nonempty⟩ : Ident).Usable (pathWords ++ typeWords) :=
  Or.inr ⟨word, List.mem_append_right pathWords known, by simp [Ident.isWord]⟩

section Trees

variable (joint : Char → List Tree → Bool) {rest : List Tree}

theorem followsWord_markThen {mark : Char} (other : mark ∉ [':', '#']) (trees : List Tree) :
    FollowsWord (markThen joint mark trees) :=
  .other (startsPunct_of_ne (by rintro rfl; exact other (by decide)) [] _ _)
    (startsPunct_of_ne (by rintro rfl; exact other (by decide)) [] _ _)

theorem SegmentSyntax.startsSegment_write (segment : SegmentSyntax) (follows : FollowsWord rest) :
    StartsSegment (segment.write joint rest) := by
  cases segment with
  | root word => exact .word word.usable follows
  | plain name => exact .word name.usable_pathWords follows
  | angle name arguments =>
      exact .word name.usable_pathWords (followsWord_markThen joint (by decide) _)

theorem PathSyntax.startsSegment_write (path : PathSyntax) (follows : FollowsWord rest) :
    StartsSegment (path.write joint rest) := by
  obtain ⟨qualifier, last⟩ := path
  cases qualifier with
  | nil => exact last.startsSegment_write joint follows
  | cons segment segments => exact segment.startsSegment_write joint (.colons _ _)

theorem startsType_rootThen (rooted : Bool) {trees : List Tree} (starts : StartsSegment trees) :
    StartsType (rootThen joint rooted trees) := by
  cases rooted with
  | true => exact .mark (by decide) _ _
  | false =>
      cases starts with
      | word usable follows => exact .word (usable.mono (by decide)) follows

theorem isGroup_rootThen (rooted : Bool) {trees : List Tree} (starts : StartsSegment trees)
    (delimiter : Delimiter) : isGroup delimiter (rootThen joint rooted trees) = false := by
  cases rooted with
  | true => rfl
  | false =>
      cases starts with
      | word usable follows => rfl

theorem startsPunct_rootThen (rooted : Bool) {trees : List Tree} (starts : StartsSegment trees)
    {mark : Char} (other : mark ≠ ':') (marks : List Char) :
    startsPunct (mark :: marks) (rootThen joint rooted trees) = false := by
  cases rooted with
  | true => exact startsPunct_of_ne other marks _ _
  | false => exact starts.startsPunct mark marks

theorem followsWord_rootThen (rooted : Bool) {trees : List Tree} (starts : StartsSegment trees) :
    FollowsWord (rootThen joint rooted trees) := by
  cases rooted with
  | true => exact .colons _ _
  | false =>
      cases starts with
      | word usable follows => exact .other rfl rfl

theorem endsType_keyword {word : String} (nonempty : word ≠ "") (trees : List Tree) :
    EndsType (keyword word nonempty :: trees) :=
  .ident _ trees

theorem endsType_markThen {mark : Char} (other : mark ∉ ['<', ':', '!', '+', '#'])
    (trees : List Tree) : EndsType (markThen joint mark trees) :=
  .punct other _ trees

theorem endsType_close (trees : List Tree) : EndsType (markThen joint '>' trees) :=
  endsType_markThen joint (by decide) trees

/-- The trees of a type start with a type. -/
theorem TypeSyntax.startsType_write : (type : TypeSyntax) → {rest : List Tree} → EndsType rest →
    StartsType (type.write joint rest)
  | .path rooted segments, _, ends =>
      startsType_rootThen joint rooted (segments.startsSegment_write joint ends.followsWord)
  | .member self _, _, _ =>
      .angle _ ((self.startsType_write (endsType_close joint _)).startsPunct (by decide) [])
  | .traitMember self _ _ _, _, _ =>
      .angle _ ((self.startsType_write (endsType_keyword _ _)).startsPunct (by decide) [])
  | .reference _ _ _, _, _ => .mark (by decide) _ _
  | .pointer _ _, _, _ => .mark (by decide) _ _
  | .parenthesized _, _, _ => .group (by decide) _ _
  | .unit, _, _ => .group (by decide) _ _
  | .tuple _ _, _, _ => .group (by decide) _ _
  | .slice _, _, _ => .group (by decide) _ _
  | .array _ _, _, _ => .group (by decide) _ _
  | .function _ _, _, _ => .word (usable_keyword (by decide) (by decide)) (.other rfl rfl)
  | .object isHidden rooted trait, _, ends => by
      have follows := followsWord_rootThen joint rooted
        (trait.startsSegment_write joint ends.followsWord)
      cases isHidden with
      | true => exact .word (usable_keyword (by decide) (by decide)) follows
      | false => exact .word (usable_keyword (by decide) (by decide)) follows
  | .never, _, _ => .mark (by decide) _ _
  | .inferred, _, ends => .word (usable_keyword (by decide) (by decide)) ends.followsWord

end Trees

end DocApi.Source
