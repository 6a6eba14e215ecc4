import DocApi.Proofs.Source.Lexing
import DocApi.Proofs.Source.Rules
import DocApi.Source.Parser

/-!
# The names in declared types

The rules of types keep to the identifiers of the text, and these are made of the characters of
identifiers. So the names in a declared type are, whatever else stands in the text.
-/

namespace DocApi.Source

/-- Whether all identifiers in a type have a property. -/
inductive Ty.Holds (p : Ident → Prop) : Ty → Prop
  | path {qualifier : List Ident} {name : Ident} {arguments : List Ty}
      (before : ∀ ident ∈ qualifier, p ident) (own : p name)
      (inside : ∀ argument ∈ arguments, Holds p argument) : Holds p (.path qualifier name arguments)
  | reference {target : Ty} (inside : Holds p target) : Holds p (.reference target)
  | parenthesized {inner : Ty} (inside : Holds p inner) : Holds p (.parenthesized inner)
  | array {element : Ty} (inside : Holds p element) : Holds p (.array element)
  | slice {element : Ty} (inside : Holds p element) : Holds p (.slice element)
  | other : Holds p .other

/-! ## The rules of types -/

namespace Grammar

open Rule

variable {p : Ident → Prop} {g : Grammar}

/-- Whether all identifiers in a type have a property, whatever its form. -/
def FormHolds (p : Ident → Prop) (form : TypeForm) : Prop := form.type.Holds p

/-- Whether the rules for types and bounds keep to identifiers with a property. -/
structure Sound (p : Ident → Prop) (g : Grammar) : Prop where
  type (allowPlus : Bool) : Keeps p (g.type allowPlus) (FormHolds p)
  bound (allowCapture allowConst : Bool) : Passes p (g.bound allowCapture allowConst)

@[grind ←] theorem Sound.passes_type (sound : g.Sound p) (allowPlus : Bool) :
    Passes p (g.type allowPlus) :=
  (sound.type allowPlus).passes

attribute [grind ←] Sound.bound

/-! ### Attributes, constants and bounds -/

@[grind ←] theorem passes_outerAttributes : Passes p (outerAttributes g) := by
  unfold outerAttributes
  grind

@[grind ←] theorem passes_constantArgument : Passes p (constantArgument g) := by
  unfold constantArgument attributedBlock
  grind

@[grind ←] theorem passes_boundsUntil (sound : g.Sound p) (allowConst : Bool)
    (stop : List Tree → Bool) : Passes p (boundsUntil g allowConst stop) := by
  unfold boundsUntil
  grind

/-! ### Paths -/

/-- Whether all identifiers in the types among the arguments of a segment have a property. -/
def SegmentArguments.Holds (p : Ident → Prop) : SegmentArguments → Prop
  | .none => True
  | .angle types _ => ∀ type ∈ types, type.Holds p

/-- Whether all identifiers in a segment have a property. -/
structure Segment.Holds (p : Ident → Prop) (segment : Segment) : Prop where
  name : p segment.name
  arguments : segment.arguments.Holds p

/-- Whether all identifiers in a path have a property. -/
structure PathForm.Holds (p : Ident → Prop) (path : PathForm) : Prop where
  before : ∀ segment ∈ path.before, segment.Holds p
  last : path.last.Holds p

theorem PathForm.Holds.push {path : PathForm} {segment : Segment} (holds : path.Holds p)
    (own : segment.Holds p) : (path.push segment).Holds p where
  before := by
    rintro earlier (_ | ⟨_, member⟩)
    · exact holds.last
    · exact holds.before earlier member
  last := own

theorem PathForm.Holds.toType {path : PathForm} (holds : path.Holds p) :
    FormHolds p path.toType := by
  unfold PathForm.toType
  split
  · exact .other
  · refine .path ?_ holds.last.name ?_
    · intro ident member
      obtain ⟨segment, inside, rfl⟩ := List.mem_map.1 member
      exact (holds.before segment (List.mem_reverse.1 inside)).name
    · have arguments := holds.last.arguments
      split
      · rename_i types _ given
        rwa [given] at arguments
      · simp

/-- Whether all identifiers in the types among arguments in angle brackets have a property. -/
def ArgumentsHold (p : Ident → Prop) (arguments : List (Option Ty)) : Prop :=
  ∀ argument ∈ arguments, ∀ type ∈ argument, type.Holds p

theorem ArgumentsHold.reverse {arguments : List (Option Ty)} (holds : ArgumentsHold p arguments) :
    ArgumentsHold p arguments.reverse :=
  fun argument member => holds argument (List.mem_reverse.1 member)

theorem keeps_genericArgument (sound : g.Sound p) :
    Keeps p (genericArgument g) fun argument => ∀ type ∈ argument, type.Holds p := by
  have nothing : Keeps p (pure none) fun argument : Option Ty => ∀ type ∈ argument, type.Holds p :=
    keeps_pure (by simp)
  unfold genericArgument
  refine keeps_choice (passes_ahead _) (passes_lifetime.bind fun _ => nothing) ?_
  refine keeps_choice (passes_ahead _) (passes_constantArgument.bind fun _ => nothing) ?_
  refine (sound.type true).bind fun form holds => ?_
  have whole : ∀ type ∈ some form.type, type.Holds p := by
    rintro type ⟨⟩
    exact holds
  refine keeps_ite ?_ (keeps_pure whole)
  refine keeps_choice (passes_punct? _) ?_ (keeps_choice (passes_punct? _) ?_ (keeps_pure whole))
  · exact keeps_choice (passes_ahead _) (passes_constantArgument.bind fun _ => nothing)
      ((sound.passes_type true).bind fun _ => nothing)
  · exact (passes_boundsUntil sound _ _).bind fun _ => nothing

theorem keeps_angleArguments (sound : g.Sound p) :
    Keeps p (angleArguments g) (SegmentArguments.Holds p) := by
  unfold angleArguments
  refine (passes_punct _).bind fun _ => Keeps.bind
    (keeps_loop (ArgumentsHold p) (fun found holds => ?_) (List.forall_mem_nil _) :
      Keeps p _ (ArgumentsHold p)) fun arguments holds => ?_
  · refine keeps_choice (passes_ahead _) (keeps_pure holds.reverse) ?_
    refine (keeps_genericArgument sound).bind fun argument own => ?_
    have more : ArgumentsHold p (argument :: found) := List.forall_mem_cons.2 ⟨own, holds⟩
    refine keeps_choice (passes_ahead _) (keeps_pure more.reverse) ?_
    exact (passes_punct _).bind fun _ => keeps_pure more
  · refine (passes_punct _).bind fun _ => keeps_pure ?_
    intro type member
    obtain ⟨argument, inside, given⟩ := List.mem_filterMap.1 member
    exact holds argument inside type given

theorem keeps_segment (sound : g.Sound p) (inExpr : Bool) :
    Keeps p (segment g inExpr) (Segment.Holds p) := by
  unfold segment
  refine keeps_choice (passes_ahead _) ?_ ?_
  · exact keeps_anyIdent.bind fun name own => keeps_pure ⟨own, trivial⟩
  · refine keeps_choice (passes_ahead _) (keeps_anyIdent.bind ?tail) (keeps_ident.bind ?tail)
    intro name own
    refine keeps_choice (passes_ahead _) ?_ (keeps_pure ⟨own, trivial⟩)
    refine (passes_punct? _).bind fun _ => ?_
    exact (keeps_angleArguments sound).bind fun _ holds => keeps_pure ⟨own, holds⟩

theorem keeps_plainPath (sound : g.Sound p) (inExpr : Bool) :
    Keeps p (plainPath g inExpr) (PathForm.Holds p) := by
  unfold plainPath
  refine (passes_punct? _).bind fun rooted => (keeps_segment sound inExpr).bind fun first own => ?_
  refine keeps_loop (PathForm.Holds p) (fun path holds => ?_) ⟨by simp, own⟩
  refine keeps_choice (passes_ahead _) ?_ (keeps_pure holds)
  refine (passes_punct _).bind fun _ => ?_
  exact (keeps_segment sound inExpr).bind fun segment own => keeps_pure (holds.push own)

@[grind ←] theorem passes_plainPath (sound : g.Sound p) (inExpr : Bool) :
    Passes p (plainPath g inExpr) :=
  (keeps_plainPath sound inExpr).passes

theorem keeps_qualifiedPath (sound : g.Sound p) (inExpr : Bool) :
    Keeps p (qualifiedPath g inExpr) (PathForm.Holds p) := by
  unfold qualifiedPath
  refine keeps_choice (passes_ahead _) ?_ (keeps_plainPath sound inExpr)
  refine (passes_punct _).bind fun _ => (sound.passes_type true).bind fun _ => ?_
  refine (passes_word? _).bind fun _ => keeps_optional ?_ fun tail =>
    (passes_plainPath sound false).bind fun _ => tail
  refine (passes_punct _).bind fun _ => (passes_punct _).bind fun _ => ?_
  refine (keeps_segment sound inExpr).bind fun first own => ?_
  refine keeps_loop (PathForm.Holds p) (fun path holds => ?_) ⟨by simp, own⟩
  refine keeps_choice (passes_punct? _) ?_ (keeps_pure holds)
  exact (keeps_segment sound inExpr).bind fun segment own => keeps_pure (holds.push own)

/-! ### Parameters and objects -/

@[grind ←] theorem passes_builtinForm : Passes p builtinForm := by
  unfold builtinForm
  grind

@[grind ←] theorem passes_macroArguments : Passes p macroArguments := by
  unfold macroArguments
  grind

@[grind ←] theorem passes_callingConvention? : Passes p callingConvention? := by
  unfold callingConvention?
  grind

@[grind ←] theorem passes_returnType (sound : g.Sound p) (allowPlus : Bool) :
    Passes p (returnType g allowPlus) := by
  unfold returnType
  grind

@[grind ←] theorem passes_lifetimeBounds (stop : List Tree → Bool) :
    Passes p (lifetimeBounds stop) := by
  unfold lifetimeBounds
  grind

@[grind ←] theorem passes_genericParameter (sound : g.Sound p) (allowWild : Bool) :
    Passes p (genericParameter g allowWild) := by
  unfold genericParameter
  -- The choice is written out; each of its branches is short enough to be followed by itself.
  refine passes_bind passes_outerAttributes fun _ => passes_bind (passes_ahead _) fun _ => ?_
  refine passes_ite ?lifetime (passes_bind (passes_ahead _) fun _ => passes_ite ?type ?constant)
  · grind
  · grind
  · grind

@[grind ←] theorem passes_boundLifetimes? (sound : g.Sound p) : Passes p (boundLifetimes? g) := by
  unfold boundLifetimes?
  refine passes_bind (passes_word? _) fun _ => passes_ite ?_ (passes_pure _)
  refine passes_bind (passes_punct _) fun _ => passes_bind (passes_loop (fun _ => ?_) _) fun _ => ?_
  · grind
  · grind

@[grind ←] theorem passes_parenArguments (sound : g.Sound p) : Passes p (parenArguments g) := by
  unfold parenArguments
  grind

@[grind ←] theorem passes_capturedParameters : Passes p capturedParameters := by
  unfold capturedParameters
  refine passes_bind (passes_word _) fun _ => passes_bind (passes_punct _) fun _ => ?_
  refine passes_bind (passes_loop (fun _ => ?_) _) fun _ => passes_punct _
  refine passes_bind (passes_ahead _) fun _ => passes_ite (passes_pure _) ?_
  grind

@[grind ←] theorem passes_constantMark : Passes p constantMark := by
  unfold constantMark
  grind

@[grind ←] theorem passes_traitBound (sound : g.Sound p) (allowConst : Bool) :
    Passes p (traitBound g allowConst) := by
  unfold traitBound
  refine passes_bind (passes_boundLifetimes? sound) fun early => ?_
  refine passes_bind passes_constantMark fun constant => passes_bind (passes_require _) fun _ => ?_
  refine passes_bind (passes_punct? _) fun maybe => ?_
  grind

@[grind ←] theorem passes_boundRule (sound : g.Sound p) (allowCapture allowConst : Bool) :
    Passes p (boundRule g allowCapture allowConst) := by
  unfold boundRule
  grind

@[grind ←] theorem passes_objectBounds (sound : g.Sound p)
    (allowPlus allowCapture allowConst : Bool) :
    Passes p (objectBounds g allowPlus allowCapture allowConst) := by
  unfold objectBounds
  grind

@[grind ←] theorem passes_plusBounds (sound : g.Sound p) : Passes p (plusBounds g) := by
  unfold plusBounds
  grind

@[grind ←] theorem passes_functionType (sound : g.Sound p) : Passes p (functionType g) := by
  unfold functionType
  grind

/-! ### Types -/

/-- A rule that gives a type without names. -/
theorem keeps_other {α : Type} {rule : Rule α} (passes : Passes p rule) (shape : TypeShape) :
    Keeps p (rule >>= fun _ => pure ⟨.other, shape⟩) (FormHolds p) :=
  passes.bind fun _ => keeps_pure .other

/-- Whether all identifiers in the content of parentheses have a property. -/
def ParenContent.Holds (p : Ident → Prop) : ParenContent → Prop
  | .single form => FormHolds p form
  | _ => True

theorem keeps_parenContent (sound : g.Sound p) :
    Keeps p (parenContent g) (ParenContent.Holds p) := by
  have closed : Keeps p (pure .closed) (ParenContent.Holds p) := keeps_pure trivial
  unfold parenContent
  refine keeps_choice passes_atEnd closed ?_
  refine keeps_choice (passes_ahead _) ?_ (keeps_choice (passes_ahead _) ?_ ?_)
  · exact (passes_objectBounds sound _ _ _).bind fun _ => closed
  · exact (passes_traitBound sound _).bind fun _ => keeps_pure trivial
  · refine (sound.type true).bind fun first own => ?_
    refine keeps_choice (passes_punct? _) ?_ (keeps_pure own)
    exact (passes_commaList (sound.passes_type true)).bind fun _ => closed

theorem keeps_parenType (sound : g.Sound p) (allowPlus : Bool) :
    Keeps p (parenType g allowPlus) (FormHolds p) := by
  unfold parenType
  refine (keeps_within _ (keeps_parenContent sound).gives).bind fun content holds => ?_
  split
  · exact keeps_pure .other
  · exact (passes_ahead _).bind fun _ => keeps_other (passes_plusBounds sound) _
  · refine (passes_ahead _).bind fun _ => keeps_ite (keeps_other (passes_plusBounds sound) _) ?_
    exact keeps_pure (.parenthesized holds)

theorem keeps_pathType (sound : g.Sound p) (allowPlus bound : Bool) :
    Keeps p (pathType g allowPlus bound) (FormHolds p) := by
  unfold pathType
  refine (keeps_qualifiedPath sound false).bind fun path holds => ?_
  refine keeps_ite (keeps_pure holds.toType) ((passes_ahead _).bind fun _ => keeps_ite ?_ ?_)
  · exact (passes_punct _).bind fun _ => keeps_other passes_macroArguments _
  · refine (passes_ahead _).bind fun sum => keeps_ite ?_ (keeps_pure holds.toType)
    refine keeps_optional (keeps_pure .other) fun tail => Passes.bind ?_ fun _ => tail
    grind

theorem keeps_typeRule (sound : g.Sound p) (allowPlus : Bool) :
    Keeps p (typeRule g allowPlus) (FormHolds p) := by
  unfold typeRule
  refine (passes_boundLifetimes? sound).bind fun bound => keeps_optional ?_ fun tail =>
    (passes_ahead _).bind fun _ => (passes_require _).bind fun _ => tail
  refine keeps_choice (passes_ahead _) (keeps_parenType sound allowPlus) <|
    keeps_choice (passes_ahead _) (keeps_other (passes_functionType sound) _) <|
    keeps_choice (passes_ahead _) (keeps_other passes_builtinForm _) <|
    keeps_choice (passes_ahead _) (keeps_pathType sound allowPlus bound) <|
    keeps_choice (passes_word? _) ?object <|
    keeps_choice (passes_ahead _) ?sequence <|
    keeps_choice (passes_punct? _) ?pointer <|
    keeps_choice (passes_punct? _) ?reference <|
    keeps_choice (passes_ahead _) (keeps_other (passes_punct _) _) <|
    keeps_choice (passes_word? _) (keeps_other (passes_objectBounds sound _ _ _) _) <|
    keeps_choice (passes_word? _) (keeps_pure .other) <|
    keeps_choice (passes_ahead _) (keeps_other (passes_objectBounds sound _ _ _) _) keeps_fail
  case object =>
    have bounds := passes_objectBounds sound allowPlus false false
    exact (passes_punct? _).bind fun _ =>
      keeps_ite (keeps_other (passes_dropItems bounds) _) (keeps_other bounds _)
  case sequence =>
    -- The length of an array is an expression, of which nothing is known; it comes last.
    refine keeps_within _ (Gives.bind (sound.type true) fun element holds => ?_)
    refine Gives.bind (passes_punct? _).keeps fun _ _ => ?_
    split
    · exact gives_last (.array holds)
    · exact (keeps_pure (.slice holds)).gives
  case pointer =>
    have target := keeps_other (sound.passes_type false) .other
    exact (passes_ahead _).bind fun _ => keeps_ite ((passes_word _).bind fun _ => target)
      ((passes_word _).bind fun _ => target)
  case reference =>
    refine passes_lifetime?.bind fun _ => (passes_word? _).bind fun _ => ?_
    exact (sound.type false).bind fun target holds => keeps_pure (.reference holds)

/-- The rules keep to the identifiers of a text, however deep they are unfolded. -/
theorem sound_ofDepth (p : Ident → Prop) (depth : Nat) : (ofDepth depth).Sound p := by
  induction depth with
  | zero => exact ⟨fun _ => keeps_fail, fun _ _ => passes_fail⟩
  | succ depth sound => exact ⟨keeps_typeRule sound, passes_boundRule sound⟩

end Grammar

/-- What holds of all identifiers in a text also holds of those in the type that it spells. -/
theorem Ty.holds_of_parse? {p : Ident → Prop} {text : List Char} {type : Ty}
    (read : Ty.parse? text = some type)
    (holds : ∀ trees, trees? text = some trees → ∀ tree ∈ trees, tree.Holds p) : type.Holds p := by
  unfold Ty.parse? at read
  obtain ⟨trees, cut, read⟩ := Option.bind_eq_some_iff.1 read
  obtain ⟨form, parsed, given⟩ := Option.bind_eq_some_iff.1 read
  cases given
  exact ((Grammar.sound_ofDepth p _).type true).gives.parseAll (holds trees cut) parsed

/-! ## The identifiers in a text -/

/-- Whether an identifier is made of the characters of identifiers. -/
def Ident.Spelled (ident : Ident) : Prop := ∀ c ∈ ident.name.toList, continuesIdentifier c = true

theorem all_of_readName {text name rest : List Char} (read : readName text = some (name, rest)) :
    ∀ c ∈ name, continuesIdentifier c = true := by
  cases text with
  | nil => cases read
  | cons first text =>
      rw [readName] at read
      by_cases starts : startsIdentifier first = true
      · rw [if_pos starts] at read
        cases read
        rintro c (_ | ⟨_, member⟩)
        · exact continuesIdentifier_of_startsIdentifier starts
        · exact List.mem_takeWhile_imp member
      · rw [if_neg starts] at read
        cases read

theorem spelled_of_ofName? {name : List Char} {raw : Bool} {ident : Ident}
    (letters : ∀ c ∈ name, continuesIdentifier c = true)
    (made : Ident.ofName? name raw = some ident) : ident.Spelled := by
  unfold Ident.ofName? at made
  split at made
  · cases made
    simpa [Ident.Spelled] using letters
  · cases made

theorem spelled_of_readIdent {text rest : List Char} {ident : Ident}
    (read : readIdent text = some (ident, rest)) : ident.Spelled := by
  unfold readIdent at read
  split at read
  · obtain ⟨⟨name, after⟩, named, read⟩ := Option.bind_eq_some_iff.1 read
    obtain ⟨made, built, read⟩ := Option.bind_eq_some_iff.1 read
    split at read
    · cases read
    · cases read
      exact spelled_of_ofName? (all_of_readName named) built
  · obtain ⟨⟨name, after⟩, named, read⟩ := Option.bind_eq_some_iff.1 read
    obtain ⟨made, built, read⟩ := Option.bind_eq_some_iff.1 read
    cases read
    exact spelled_of_ofName? (all_of_readName named) built

theorem holds_of_readPunct {p : Ident → Prop} {text rest : List Char} {tree : Tree}
    (read : readPunct text = some (tree, rest)) : tree.Holds p := by
  unfold readPunct at read
  split at read
  · cases read
  · split at read
    · cases read
    · split at read
      · cases read
      · cases read
        exact .punct _ _
  · cases read
    exact .punct _ _

theorem holds_of_readLeaf {text rest : List Char} {tree : Tree}
    (read : readLeaf text = some (tree, rest)) : tree.Holds Ident.Spelled := by
  unfold readLeaf at read
  split at read
  · cases read
    exact .literal _
  · split at read
    · rename_i found
      cases read
      exact holds_of_readPunct found
    · split at read
      · cases read
      · obtain ⟨⟨ident, after⟩, found, given⟩ := Option.map_eq_some_iff.1 read
        cases given
        exact .ident (spelled_of_readIdent found)

theorem holds_docTrees (comment : List Char) (inner : Bool) :
    ∀ tree ∈ docTrees comment inner, tree.Holds Ident.Spelled := by
  have doc : Ident.Spelled ⟨"doc", false, by decide⟩ := by
    simp [Ident.Spelled, continuesIdentifier]
  have body : ∀ tree ∈ [.ident ⟨"doc", false, by decide⟩, .punct '=' false,
      .literal (.text (String.ofList comment))], Tree.Holds Ident.Spelled tree := by
    simp only [List.forall_mem_cons]
    exact ⟨.ident doc, .punct _ _, .literal _, List.forall_mem_nil _⟩
  have hash : Tree.Holds Ident.Spelled (.punct '#' false) := .punct _ _
  have bang : Tree.Holds Ident.Spelled (.punct '!' false) := .punct _ _
  have group := Tree.Holds.group .bracket body
  cases inner <;> simp [docTrees, hash, bang, group]

/-- The identifiers that are read stay in the trees, in those of open groups too. -/
theorem holds_of_readTrees {fuel : Nat} {opened : List (Delimiter × List Tree)} {done : List Tree}
    {text : List Char} {trees : List Tree}
    (read : readTrees fuel opened done text = some trees)
    (before : ∀ group ∈ opened, ∀ tree ∈ group.2, tree.Holds Ident.Spelled)
    (own : ∀ tree ∈ done, tree.Holds Ident.Spelled) :
    ∀ tree ∈ trees, tree.Holds Ident.Spelled := by
  fun_induction readTrees fuel opened done text with
  | case1 | case3 | case7 | case11 | case12 | case14 => cases read
  | case2 _ opened done =>
      cases read
      exact fun tree member => own tree (List.mem_reverse.1 member)
  | case4 _ _ _ _ _ _ induction => exact induction read before own
  | case5 _ _ _ _ _ _ _ _ induction => exact induction read before own
  | case6 _ _ _ _ _ _ _ comment inner _ _ _ induction =>
      refine induction read before fun tree member => ?_
      rcases List.mem_append.1 member with documented | earlier
      · exact holds_docTrees comment inner tree (List.mem_reverse.1 documented)
      · exact own tree earlier
  | case8 _ _ _ _ _ _ _ _ _ induction =>
      exact induction read before (List.forall_mem_cons.2 ⟨.literal _, own⟩)
  | case9 _ _ _ _ _ _ _ _ _ _ _ induction =>
      exact induction read (List.forall_mem_cons.2 ⟨own, before⟩) (List.forall_mem_nil _)
  | case10 _ done _ _ _ _ _ _ delimiter _ _ _ _ induction =>
      obtain ⟨enclosing, outer⟩ := List.forall_mem_cons.1 before
      have closed : Tree.Holds Ident.Spelled (.group delimiter done.reverse) :=
        .group delimiter fun tree member => own tree (List.mem_reverse.1 member)
      exact induction read outer (List.forall_mem_cons.2 ⟨closed, enclosing⟩)
  | case13 _ _ _ _ _ _ _ _ _ _ _ _ _ leaf induction =>
      exact induction read before (List.forall_mem_cons.2 ⟨holds_of_readLeaf leaf, own⟩)

/-- A declared type names things by the characters of identifiers only. -/
theorem Ty.spelled_of_parse? {text : List Char} {type : Ty} (read : Ty.parse? text = some type) :
    type.Holds Ident.Spelled :=
  holds_of_parse? read fun _ cut =>
    holds_of_readTrees cut (List.forall_mem_nil _) (List.forall_mem_nil _)

end DocApi.Source
