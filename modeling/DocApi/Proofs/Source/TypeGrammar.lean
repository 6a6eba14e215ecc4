import DocApi.Proofs.Source.PathGrammar
import DocApi.Proofs.Source.TypeText

/-!
# Reading declared types

The grammar reads the trees of a declared type as the type that is left of it, in front of whatever
may follow a type.
-/

namespace DocApi.Source

namespace Grammar

open Rule

section Reading

variable {g : Grammar} {joint : Char → List Tree → Bool} {stray : Bool} {found : List Item}
  {trees : List Tree}

/-! ## Types -/

theorem boundLifetimes?_of_absent {cursor : Cursor} (absent : isWord "for" cursor.rest = false) :
    boundLifetimes? g cursor = some (false, cursor) :=
  (bind_apply (word?_of_absent absent)).trans rfl

/-- A type that starts with a segment is a path. -/
theorem typeRule_of_segment (starts : StartsSegment trees) (allowPlus : Bool) :
    typeRule g allowPlus ⟨trees, stray, found⟩ =
      pathType g allowPlus false ⟨trees, stray, found⟩ := by
  cases starts with
  | @word ident usable trees follows =>
      have word : ∀ {text}, text ∈ keywords → text ∉ pathWords →
          isWord text (.ident ident :: trees) = false := usable.isWord
      have function : startsFunctionType (.ident ident :: trees) = false := by
        simp [startsFunctionType, word (show "fn" ∈ keywords by decide) (by decide),
          word (show "unsafe" ∈ keywords by decide) (by decide),
          word (show "extern" ∈ keywords by decide) (by decide)]
      have builtin : startsBuiltin (.ident ident :: trees) = false := by
        have later : second (isPunct "#") (.ident ident :: trees) = isPunct "#" trees := rfl
        rw [startsBuiltin, later, follows.hash, Bool.and_false]
      have path : startsPath (.ident ident :: trees) = true := by
        rcases usable with free | ⟨text, member, isWord⟩
        · simp [startsPath, isIdent, free]
        · simp only [pathWords, List.mem_cons, List.not_mem_nil, or_false] at member
          rcases member with rfl | rfl | rfl | rfl <;>
            simp [startsPath, DocApi.Source.isWord, isWord]
      have group : isGroup .paren (.ident ident :: trees) = false := rfl
      unfold typeRule
      rw [bind_apply (boundLifetimes?_of_absent (word (by decide) (by decide)))]
      simp [group, function, builtin, path]

theorem typeRule_of_path {path : PathSyntax} (reads : ReadsPath g joint path) (rooted : Bool)
    (allowPlus : Bool) (ends : EndsType trees) :
    typeRule g allowPlus ⟨(TypeSyntax.path rooted path).write joint trees, stray, found⟩ =
      some ((TypeSyntax.path rooted path).form, ⟨trees, stray, found⟩) := by
  refine Eq.trans ?_ (pathType_of_plainPath reads ends allowPlus rooted)
  cases rooted with
  | true => rfl
  | false => exact typeRule_of_segment (path.startsSegment_write joint ends.followsWord) allowPlus

theorem typeRule_of_reference {target : TypeSyntax} (reads : ReadsType g joint target)
    (lifetime : Option Ident) (mutable : Bool) (allowPlus : Bool) (ends : EndsType trees) :
    typeRule g allowPlus
        ⟨(TypeSyntax.reference lifetime mutable target).write joint trees, stray, found⟩ =
      some ((TypeSyntax.reference lifetime mutable target).form, ⟨trees, stray, found⟩) := by
  have starts := target.startsType_write joint ends
  have placed : word? "mut" ⟨mutThen mutable (target.write joint trees), stray, found⟩ =
      some (mutable, ⟨target.write joint trees, stray, found⟩) := by
    cases mutable with
    | true => exact word?_of_keyword _ _
    | false => exact word?_of_absent (starts.isWord (by decide) (by decide))
  have unnamed : isLifetime (mutThen mutable (target.write joint trees)) = false := by
    cases mutable with
    | true => rfl
    | false => exact starts.isLifetime
  have named : lifetime?
      ⟨lifetimeThen? lifetime (mutThen mutable (target.write joint trees)), stray, found⟩ =
      some ((), ⟨mutThen mutable (target.write joint trees), stray, found⟩) := by
    cases lifetime with
    | some name => rfl
    | none => simp [lifetime?, lifetimeThen?, unnamed]
  change (lifetime? >>= fun _ => word? "mut" >>= fun _ => g.type false >>= fun form =>
    pure ⟨.reference form.type, .other⟩ : Rule TypeForm)
      ⟨lifetimeThen? lifetime _, stray, found⟩ = _
  rw [bind_apply named, bind_apply placed, bind_apply (reads false stray found ends)]
  rfl

theorem typeRule_of_pointer {target : TypeSyntax} (reads : ReadsType g joint target)
    (mutable : Bool) (allowPlus : Bool) (ends : EndsType trees) :
    typeRule g allowPlus ⟨(TypeSyntax.pointer mutable target).write joint trees, stray, found⟩ =
      some ((TypeSyntax.pointer mutable target).form, ⟨trees, stray, found⟩) := by
  change (do
    if ← ahead (isWord "const") then word "const" else word "mut"
    let _ ← g.type false
    return ⟨.other, .other⟩ : Rule TypeForm)
      ⟨pointerWord mutable :: target.write joint trees, stray, found⟩ = _
  have later := reads false stray found ends
  cases mutable with
  | true =>
      have other : isWord "const" (pointerWord true :: target.write joint trees) = false := by
        simp [isWord, pointerWord, keyword, Ident.isWord]
      simp only [ahead_bind_apply, other, Bool.false_eq_true, if_false]
      exact (bind_apply (word_of_keyword _ _)).trans ((bind_apply later).trans rfl)
  | false =>
      have const : isWord "const" (pointerWord false :: target.write joint trees) = true := by
        simp [isWord, pointerWord, keyword, Ident.isWord]
      simp only [ahead_bind_apply, const, if_true]
      exact (bind_apply (word_of_keyword _ _)).trans ((bind_apply later).trans rfl)

/-- What brackets enclose in a type. -/
def bracketContent (g : Grammar) : Rule TypeForm := do
  let element ← g.type true
  if ← punct? ";" then
    let _ ← g.expr true
    return ⟨.array element.type, .other⟩
  else return ⟨.slice element.type, .other⟩

theorem typeRule_of_slice {element : TypeSyntax} (reads : ReadsType g joint element)
    (allowPlus : Bool) :
    typeRule g allowPlus ⟨(TypeSyntax.slice element).write joint trees, stray, found⟩ =
      some ((TypeSyntax.slice element).form, ⟨trees, stray, found⟩) := by
  have read : bracketContent g ⟨element.write joint [], stray, found⟩ =
      some ((TypeSyntax.slice element).form, ⟨[], stray, found⟩) := by
    unfold bracketContent
    rw [bind_apply (reads true stray found .nil), bind_apply (punct?_of_absent rfl)]
    rfl
  change within .bracket (bracketContent g) ⟨.group .bracket _ :: trees, stray, found⟩ = _
  exact within_of_reads read trees

theorem typeRule_of_array {element : TypeSyntax} (reads : ReadsType g joint element)
    {length : ArrayLength} {shape : ExprShape}
    (readsLength : g.expr true ⟨length.trees, stray, found⟩ = some (shape, ⟨[], stray, found⟩))
    (allowPlus : Bool) :
    typeRule g allowPlus ⟨(TypeSyntax.array element length).write joint trees, stray, found⟩ =
      some ((TypeSyntax.array element length).form, ⟨trees, stray, found⟩) := by
  have ends : EndsType (markThen joint ';' length.trees) := endsType_markThen joint (by decide) _
  have passed : punct? ";" ⟨markThen joint ';' length.trees, stray, found⟩ =
      some (true, ⟨length.trees, stray, found⟩) := rfl
  have read : bracketContent g
      ⟨element.write joint (markThen joint ';' length.trees), stray, found⟩ =
      some ((TypeSyntax.array element length).form, ⟨[], stray, found⟩) := by
    unfold bracketContent
    rw [bind_apply (reads true stray found ends), bind_apply passed]
    simp only [if_true]
    rw [bind_apply readsLength]
    rfl
  change within .bracket (bracketContent g) ⟨.group .bracket _ :: trees, stray, found⟩ = _
  exact within_of_reads read trees

theorem typeRule_of_never (allowPlus : Bool) :
    typeRule g allowPlus ⟨TypeSyntax.never.write joint trees, stray, found⟩ =
      some (TypeSyntax.never.form, ⟨trees, stray, found⟩) := rfl

theorem typeRule_of_inferred (allowPlus : Bool) :
    typeRule g allowPlus ⟨TypeSyntax.inferred.write joint trees, stray, found⟩ =
      some (TypeSyntax.inferred.form, ⟨trees, stray, found⟩) := rfl

/-! ## Parentheses -/

theorem parenType_of_parenthesized {inner : TypeSyntax} (reads : ReadsType g joint inner)
    (allowPlus : Bool) (ends : EndsType trees) :
    parenType g allowPlus ⟨(TypeSyntax.parenthesized inner).write joint trees, stray, found⟩ =
      some ((TypeSyntax.parenthesized inner).form, ⟨trees, stray, found⟩) := by
  have starts := inner.startsType_write joint EndsType.nil
  have question : isPunct "?" (inner.write joint []) = false := starts.startsPunct (by decide) []
  have content : parenContent g ⟨inner.write joint [], stray, found⟩ =
      some (.single inner.form, ⟨[], stray, found⟩) := by
    unfold parenContent
    simp only [atEnd, ahead_bind_apply, starts.isEmpty, starts.isLifetime, question,
      Bool.false_eq_true, if_false]
    rw [bind_apply (reads true stray found .nil), bind_apply (punct?_of_absent rfl)]
    rfl
  have noSum : isPunct "+" trees = false := ends.mark '+' (by decide)
  unfold parenType
  refine (bind_apply (within_of_reads content trees)).trans ?_
  simp only [ahead_bind_apply, noSum, Bool.and_false, Bool.false_eq_true, if_false]
  rfl

theorem parenType_of_closed {content : List Tree}
    (reads : parenContent g ⟨content, stray, found⟩ = some (.closed, ⟨[], stray, found⟩))
    (allowPlus : Bool) (trees : List Tree) :
    parenType g allowPlus ⟨.group .paren content :: trees, stray, found⟩ =
      some (⟨.other, .other⟩, ⟨trees, stray, found⟩) :=
  (bind_apply (within_of_reads reads trees)).trans rfl

variable (joint) in
theorem endsType_writeMoreTypes (others : List TypeSyntax) :
    EndsType (writeMoreTypes joint others) := by
  cases others with
  | nil => exact .nil
  | cons next others => exact endsType_markThen joint (by decide) _

/-- One step of reading what is separated by commas. -/
def commaStep {α : Type} (rule : Rule α) (done : List α) : Rule (Step (List α) (List α)) := do
  if ← atEnd then return .done done.reverse
  let value ← rule
  if ← atEnd then return .done (value :: done).reverse
  punct ","
  return .again (value :: done)

/-- A step reads one type and looks at what follows it. -/
theorem commaStep_of_reads {type : TypeSyntax} (reads : ReadsType g joint type)
    (done : List TypeForm) (ends : EndsType trees) :
    commaStep (g.type true) done ⟨type.write joint trees, stray, found⟩ =
      (do
        if ← atEnd then return .done (type.form :: done).reverse
        punct ","
        return .again (type.form :: done) : Rule (Step _ _)) ⟨trees, stray, found⟩ := by
  have starts := type.startsType_write joint ends
  unfold commaStep
  simp only [atEnd, ahead_bind_apply, starts.isEmpty, Bool.false_eq_true, if_false]
  rw [bind_apply (reads true stray found ends)]
  rfl

theorem shorter_writeTypes (first next : TypeSyntax) (others : List TypeSyntax) :
    (writeTypes joint (next :: others)).length <
      (writeTypes joint (first :: next :: others)).length :=
  Nat.lt_of_succ_le (first.precedes_write joint (writeMoreTypes joint (next :: others))).length_le

/-- Types between commas are read one after the other, up to the end. -/
theorem commaList_of_reads {types : List TypeSyntax}
    (reads : ∀ type ∈ types, ReadsType g joint type) :
    commaList (g.type true) ⟨writeTypes joint types, stray, found⟩ =
      some (types.map TypeSyntax.form, ⟨[], stray, found⟩) := by
  refine Runs.loop ?_
  cases types with
  | nil => exact .done rfl
  | cons first others =>
      have runs := runs_items (fun types => ⟨writeTypes joint types, stray, found⟩)
        (fun done type => type.form :: done) List.reverse
        (fun done _ next others reads =>
          commaStep_of_reads reads done (endsType_writeMoreTypes joint (next :: others)))
        shorter_writeTypes
        (fun done _ reads => commaStep_of_reads reads done (endsType_writeMoreTypes joint []))
        [] reads
      rwa [List.foldl_flip_cons_eq_append, List.append_nil, List.reverse_reverse] at runs

theorem parenContent_of_tuple {first : TypeSyntax} {others : List TypeSyntax}
    (reads : ReadsType g joint first) (readsOthers : ∀ type ∈ others, ReadsType g joint type) :
    parenContent g
        ⟨first.write joint (markThen joint ',' (writeTypes joint others)), stray, found⟩ =
      some (.closed, ⟨[], stray, found⟩) := by
  have ends : EndsType (markThen joint ',' (writeTypes joint others)) :=
    endsType_markThen joint (by decide) _
  have starts := first.startsType_write joint ends
  have question : isPunct "?" (first.write joint (markThen joint ',' (writeTypes joint others))) =
      false := starts.startsPunct (by decide) []
  have passed : punct? "," ⟨markThen joint ',' (writeTypes joint others), stray, found⟩ =
      some (true, ⟨writeTypes joint others, stray, found⟩) := rfl
  unfold parenContent
  simp only [atEnd, ahead_bind_apply, starts.isEmpty, starts.isLifetime, question,
    Bool.false_eq_true, if_false]
  rw [bind_apply (reads true stray found ends), bind_apply passed]
  simp only [if_true]
  rw [bind_apply (commaList_of_reads readsOthers)]
  rfl

/-! ## Functions -/

theorem outerAttributes_of_absent {cursor : Cursor} (absent : isPunct "#" cursor.rest = false) :
    outerAttributes g cursor = some ([], cursor) := by
  unfold outerAttributes whileAhead
  refine (Runs.done ?_).loop
  simp only [ahead_bind_apply, absent]
  rfl

theorem functionTypeParameter_of_reads {type : TypeSyntax} (reads : ReadsType g joint type)
    (allowSelf : Bool) (ends : EndsType trees) :
    functionTypeParameter g allowSelf ⟨type.write joint trees, stray, found⟩ =
      some ((), ⟨trees, stray, found⟩) := by
  have starts := type.startsType_write joint ends
  have plain : isPunct "#" (type.write joint trees) = false := starts.startsPunct (by decide) []
  have constant : isWord "mut" (type.write joint trees) = false :=
    starts.isWord (by decide) (by decide)
  unfold functionTypeParameter
  rw [bind_apply (outerAttributes_of_absent plain)]
  simp only [ahead_bind_apply, constant, starts.unnamed, Bool.false_and, Bool.and_false,
    Bool.false_eq_true, if_false, Bool.not_false]
  rw [bind_apply (reads true stray found ends)]
  rfl

/-- One step of reading the parameters of a function type; it tells whether they are the first. -/
def parameterStep (g : Grammar) (first : Bool) : Rule (Step Bool Unit) := do
  if ← atEnd then return .done ()
  let _ ← outerAttributes g
  if ← ahead variadicAhead then
    if ← ahead fun trees => isIdent trees || isWord "_" trees then
      let _ ← anyIdent
      punct ":"
    punct "..."
    let _ ← punct? ","
    return .done ()
  functionTypeParameter g first
  if ← atEnd then return .done ()
  punct ","
  return .again false

/-- A step reads one type and looks at what follows it. -/
theorem parameterStep_of_reads {type : TypeSyntax} (reads : ReadsType g joint type) (first : Bool)
    (ends : EndsType trees) :
    parameterStep g first ⟨type.write joint trees, stray, found⟩ =
      (do
        if ← atEnd then return .done ()
        punct ","
        return .again false : Rule (Step Bool Unit)) ⟨trees, stray, found⟩ := by
  have starts := type.startsType_write joint ends
  have plain : isPunct "#" (type.write joint trees) = false := starts.startsPunct (by decide) []
  unfold parameterStep
  simp only [atEnd, ahead_bind_apply, starts.isEmpty, Bool.false_eq_true, if_false]
  rw [bind_apply (outerAttributes_of_absent plain)]
  simp only [ahead_bind_apply, starts.variadicAhead, Bool.false_eq_true, if_false]
  rw [bind_apply (functionTypeParameter_of_reads reads first ends)]
  rfl

/-- The parameters of a function type are read one after the other, up to the end. -/
theorem parameters_of_reads {types : List TypeSyntax}
    (reads : ∀ type ∈ types, ReadsType g joint type) :
    loop (parameterStep g) true ⟨writeTypes joint types, stray, found⟩ =
      some ((), ⟨[], stray, found⟩) := by
  refine Runs.loop ?_
  cases types with
  | nil => exact .done rfl
  | cons first others =>
      exact runs_items (fun types => ⟨writeTypes joint types, stray, found⟩)
        (fun _ _ => false) (fun _ => ())
        (fun first _ next others reads =>
          parameterStep_of_reads reads first (endsType_writeMoreTypes joint (next :: others)))
        shorter_writeTypes
        (fun first _ reads => parameterStep_of_reads reads first (endsType_writeMoreTypes joint []))
        true reads

theorem functionType_of_reads {parameters : List TypeSyntax} {result : TypeSyntax}
    (readsParameters : ∀ type ∈ parameters, ReadsType g joint type)
    (readsResult : ReadsType g joint result) (ends : EndsType trees) :
    functionType g ⟨(TypeSyntax.function parameters result).write joint trees, stray, found⟩ =
      some ((), ⟨trees, stray, found⟩) := by
  have arrow : punct? "->" ⟨.punct '-' true :: markThen joint '>' (result.write joint trees), stray,
      found⟩ = some (true, ⟨result.write joint trees, stray, found⟩) := rfl
  have returned : returnType g false
      ⟨.punct '-' true :: markThen joint '>' (result.write joint trees), stray, found⟩ =
      some (some result.form, ⟨trees, stray, found⟩) := by
    unfold returnType
    rw [bind_apply arrow]
    simp only [if_true]
    rw [bind_apply (readsResult false stray found ends)]
    rfl
  have inside : ∀ after, within .paren (loop (parameterStep g) true)
      ⟨.group .paren (writeTypes joint parameters) :: after, stray, found⟩ =
      some ((), ⟨after, stray, found⟩) := within_of_reads (parameters_of_reads readsParameters)
  change (within .paren (loop (parameterStep g) true) >>= fun _ => returnType g false >>= fun _ =>
    pure () : Rule Unit) ⟨.group .paren _ :: _, stray, found⟩ = _
  rw [bind_apply (inside _), bind_apply returned]
  rfl

theorem typeRule_of_function {parameters : List TypeSyntax} {result : TypeSyntax}
    (readsParameters : ∀ type ∈ parameters, ReadsType g joint type)
    (readsResult : ReadsType g joint result) (allowPlus : Bool) (ends : EndsType trees) :
    typeRule g allowPlus
        ⟨(TypeSyntax.function parameters result).write joint trees, stray, found⟩ =
      some ((TypeSyntax.function parameters result).form, ⟨trees, stray, found⟩) :=
  (bind_apply (functionType_of_reads readsParameters readsResult ends)).trans rfl

/-! ## Traits -/

section Trait

variable {trait : PathSyntax} (reads : ReadsPath g joint trait) (rooted : Bool)
  (ends : EndsType trees)
include reads ends

theorem traitBound_of_reads (allowConst : Bool) :
    traitBound g allowConst ⟨rootThen joint rooted (trait.write joint trees), stray, found⟩ =
      some (false, ⟨trees, stray, found⟩) := by
  have segments := trait.startsSegment_write joint ends.followsWord
  have starts := startsType_rootThen joint rooted segments
  have bracket := isGroup_rootThen joint rooted segments .bracket
  have noConst : isWord "const" (rootThen joint rooted (trait.write joint trees)) = false :=
    starts.isWord (by decide) (by decide)
  have noFor : isWord "for" (rootThen joint rooted (trait.write joint trees)) = false :=
    starts.isWord (by decide) (by decide)
  have question : isPunct "?" (rootThen joint rooted (trait.write joint trees)) = false :=
    starts.startsPunct (by decide) []
  have unmarked : constantMark ⟨rootThen joint rooted (trait.write joint trees), stray, found⟩ =
      some (false, ⟨rootThen joint rooted (trait.write joint trees), stray, found⟩) := by
    simp only [constantMark, ahead_bind_apply, bracket, Bool.false_eq_true, if_false]
    exact word?_of_absent noConst
  have noCall : parenAhead trees = false := by
    have noColons : isPunct "::" trees = false := ends.startsPunct (by decide) [':']
    simp [parenAhead, ends.call, noColons]
  unfold traitBound
  rw [bind_apply (boundLifetimes?_of_absent noFor), bind_apply unmarked]
  simp only [Bool.not_false, Bool.or_true, require, if_true]
  refine (bind_apply (punct?_of_absent question)).trans ?_
  refine (bind_apply (plainPath_of_reads reads ends rooted)).trans ?_
  simp only [ahead_bind_apply, noCall, Bool.and_false, Bool.false_eq_true, if_false]
  rfl

/-- A trait is read as a bound, from which nothing is collected. -/
theorem boundRule_of_reads (allowCapture allowConst : Bool) :
    boundRule g allowCapture allowConst
        ⟨rootThen joint rooted (trait.write joint trees), stray, found⟩ =
      some (true, ⟨trees, stray, found⟩) := by
  have segments := trait.startsSegment_write joint ends.followsWord
  have starts := startsType_rootThen joint rooted segments
  have group := isGroup_rootThen joint rooted segments .paren
  have noUse : isWord "use" (rootThen joint rooted (trait.write joint trees)) = false :=
    starts.isWord (by decide) (by decide)
  have captured : capture (do
      if ← ahead (isGroup .paren) then within .paren (traitBound g allowConst)
      else traitBound g allowConst)
        ⟨rootThen joint rooted (trait.write joint trees), stray, found⟩ =
      some ((false, []), ⟨trees, stray, found⟩) := by
    simp only [capture, ahead_bind_apply, group, Bool.false_eq_true, if_false,
      traitBound_of_reads reads rooted ends]
  unfold boundRule
  simp only [ahead_bind_apply, starts.isLifetime, noUse, Bool.false_eq_true, if_false]
  have collected : collect [] ⟨trees, stray, found⟩ = some ((), ⟨trees, stray, found⟩) := by
    simp [collect]
  rw [bind_apply captured]
  simp only [Bool.not_false, if_true]
  rw [bind_apply collected]
  rfl

end Trait

/-- One step of reading the bounds that stand for a type. -/
def boundStep (g : Grammar) (allowPlus allowCapture allowConst hasTrait : Bool) :
    Rule (Step Bool Bool) := do
  let hasTrait := (← g.bound allowCapture allowConst) || hasTrait
  if allowPlus && (← punct? "+") then
    if ← ahead (startsBound allowConst) then return .again hasTrait
    else return .done hasTrait
  else return .done hasTrait

/-- A single trait as a bound stands for a type. -/
theorem objectBounds_of_bound {inner : List Tree} {allowCapture allowConst : Bool}
    (read : g.bound allowCapture allowConst ⟨inner, stray, found⟩ =
      some (true, ⟨trees, stray, found⟩)) (allowPlus : Bool) (ends : EndsType trees) :
    objectBounds g allowPlus allowCapture allowConst ⟨inner, stray, found⟩ =
      some ((), ⟨trees, stray, found⟩) := by
  have noSum : isPunct "+" trees = false := ends.mark '+' (by decide)
  have step : boundStep g allowPlus allowCapture allowConst false ⟨inner, stray, found⟩ =
      some (.done true, ⟨trees, stray, found⟩) := by
    unfold boundStep
    rw [bind_apply read, bind_apply (punct?_of_absent noSum)]
    simp
  change (loop (boundStep g allowPlus allowCapture allowConst) false >>= require : Rule Unit) _ = _
  rw [bind_apply (Runs.done step).loop]
  rfl

theorem typeRule_of_object {trait : PathSyntax} {isHidden rooted : Bool}
    (read : ∀ allowCapture allowConst, g.bound allowCapture allowConst
        ⟨rootThen joint rooted (trait.write joint trees), stray, found⟩ =
      some (true, ⟨trees, stray, found⟩)) (allowPlus : Bool) (ends : EndsType trees) :
    typeRule g allowPlus
        ⟨(TypeSyntax.object isHidden rooted trait).write joint trees, stray, found⟩ =
      some ((TypeSyntax.object isHidden rooted trait).form, ⟨trees, stray, found⟩) := by
  have plain : isPunct "*" (rootThen joint rooted (trait.write joint trees)) = false :=
    startsPunct_rootThen joint rooted (trait.startsSegment_write joint ends.followsWord)
      (by decide) []
  cases isHidden with
  | true =>
      change (objectBounds g allowPlus true true >>= fun _ => pure ⟨.other, .other⟩ :
        Rule TypeForm) ⟨rootThen joint rooted _, stray, found⟩ = _
      rw [bind_apply (objectBounds_of_bound (read true true) allowPlus ends)]
      rfl
  | false =>
      change (punct? "*" >>= fun starred =>
        if starred then dropItems (objectBounds g allowPlus false false) >>= fun _ =>
          pure ⟨.other, .other⟩
        else objectBounds g allowPlus false false >>= fun _ => pure ⟨.other, .other⟩ :
          Rule TypeForm) ⟨rootThen joint rooted _, stray, found⟩ = _
      rw [bind_apply (punct?_of_absent plain)]
      simp only [Bool.false_eq_true, if_false]
      rw [bind_apply (objectBounds_of_bound (read false false) allowPlus ends)]
      rfl

end Reading

end Grammar

/-! ## Whole types -/

section Whole

open Grammar

variable (joint : Char → List Tree → Bool)

theorem readsType_nameType (name : PathName) (depth : Nat) :
    ReadsType (.ofDepth (depth + 1)) joint (nameType name) := by
  intro allowPlus rest stray found ends
  exact typeRule_of_path (readsPath_segments (List.forall_mem_nil _) (readsSegment_plain name))
    false allowPlus ends

-- A type takes one level of the grammar, and a bound two; the rest of the sixteen levels for each
-- tree is what the lengths of arrays may take.
mutual

/-- Unfolded deep enough for its size, the grammar reads a type. -/
theorem TypeSyntax.readsType : (type : TypeSyntax) → {depth : Nat} → 16 * type.size ≤ depth →
    ReadsType (.ofDepth depth) joint type
  | type, 0, deep => by
      have positive := type.size_pos
      omega
  | .path rooted segments, depth + 1, deep => by
      simp only [TypeSyntax.size] at deep
      have reads : ReadsPath (.ofDepth depth) joint segments := segments.readsPath (by omega)
      intro allowPlus rest stray found ends
      exact typeRule_of_path reads rooted allowPlus ends
  | .member self segments, depth + 1, deep => by
      simp only [TypeSyntax.size] at deep
      have readsSelf : ReadsType (.ofDepth depth) joint self := self.readsType (by omega)
      have reads : ReadsPath (.ofDepth depth) joint segments := segments.readsPath (by omega)
      intro allowPlus rest stray found ends
      exact pathType_of_qualified (qualifiedPath_of_member readsSelf reads ends) allowPlus
  | .traitMember self rooted trait segments, depth + 1, deep => by
      simp only [TypeSyntax.size] at deep
      have readsSelf : ReadsType (.ofDepth depth) joint self := self.readsType (by omega)
      have readsTrait : ReadsPath (.ofDepth depth) joint trait := trait.readsPath (by omega)
      have reads : ReadsPath (.ofDepth depth) joint segments := segments.readsPath (by omega)
      intro allowPlus rest stray found ends
      exact pathType_of_qualified
        (qualifiedPath_of_traitMember readsSelf reads ends readsTrait rooted) allowPlus
  | .reference lifetime mutable target, depth + 1, deep => by
      simp only [TypeSyntax.size] at deep
      have reads : ReadsType (.ofDepth depth) joint target := target.readsType (by omega)
      intro allowPlus rest stray found ends
      exact typeRule_of_reference reads lifetime mutable allowPlus ends
  | .pointer mutable target, depth + 1, deep => by
      simp only [TypeSyntax.size] at deep
      have reads : ReadsType (.ofDepth depth) joint target := target.readsType (by omega)
      intro allowPlus rest stray found ends
      exact typeRule_of_pointer reads mutable allowPlus ends
  | .parenthesized inner, depth + 1, deep => by
      simp only [TypeSyntax.size] at deep
      have reads : ReadsType (.ofDepth depth) joint inner := inner.readsType (by omega)
      intro allowPlus rest stray found ends
      exact parenType_of_parenthesized reads allowPlus ends
  | .unit, depth + 1, _ => by
      intro allowPlus rest stray found _
      have closed : parenContent (.ofDepth depth) ⟨[], stray, found⟩ =
          some (.closed, ⟨[], stray, found⟩) := rfl
      exact parenType_of_closed closed allowPlus rest
  | .tuple first others, depth + 1, deep => by
      simp only [TypeSyntax.size] at deep
      have reads : ReadsType (.ofDepth depth) joint first := first.readsType (by omega)
      have readsOthers : ∀ type ∈ others, ReadsType (.ofDepth depth) joint type :=
        readsTypes others (by omega)
      intro allowPlus rest stray found _
      exact parenType_of_closed (parenContent_of_tuple reads readsOthers) allowPlus rest
  | .slice element, depth + 1, deep => by
      simp only [TypeSyntax.size] at deep
      have reads : ReadsType (.ofDepth depth) joint element := element.readsType (by omega)
      intro allowPlus rest stray found _
      exact typeRule_of_slice reads allowPlus
  | .array element length, depth + 1, deep => by
      simp only [TypeSyntax.size] at deep
      have reads : ReadsType (.ofDepth depth) joint element := element.readsType (by omega)
      intro allowPlus rest stray found _
      obtain ⟨shape, readsLength⟩ := length.reads stray found (show _ ≤ depth by omega)
      exact typeRule_of_array reads readsLength allowPlus
  | .function parameters result, depth + 1, deep => by
      simp only [TypeSyntax.size] at deep
      have readsParameters : ∀ type ∈ parameters, ReadsType (.ofDepth depth) joint type :=
        readsTypes parameters (by omega)
      have readsResult : ReadsType (.ofDepth depth) joint result := result.readsType (by omega)
      intro allowPlus rest stray found ends
      exact typeRule_of_function readsParameters readsResult allowPlus ends
  | .object isHidden rooted trait, depth + 1, deep => by
      simp only [TypeSyntax.size] at deep
      obtain ⟨depth, rfl⟩ := Nat.exists_eq_add_of_le' (show 1 ≤ depth by omega)
      have reads : ReadsPath (.ofDepth depth) joint trait := trait.readsPath (by omega)
      intro allowPlus rest stray found ends
      exact typeRule_of_object (fun _ _ => boundRule_of_reads reads rooted ends _ _) allowPlus ends
  | .never, depth + 1, _ => by
      intro allowPlus rest stray found _
      exact typeRule_of_never allowPlus
  | .inferred, depth + 1, _ => by
      intro allowPlus rest stray found _
      exact typeRule_of_inferred allowPlus

theorem readsTypes : (types : List TypeSyntax) → {depth : Nat} → 16 * typesSize types ≤ depth →
    ∀ type ∈ types, ReadsType (.ofDepth depth) joint type
  | [], _, _ => List.forall_mem_nil _
  | first :: others, depth, deep => by
      simp only [typesSize] at deep
      exact List.forall_mem_cons.2 ⟨first.readsType (by omega), readsTypes others (by omega)⟩

/-- A path is read by its segments. -/
theorem PathSyntax.readsPath : (path : PathSyntax) → {depth : Nat} → 16 * path.size ≤ depth + 1 →
    ReadsPath (.ofDepth depth) joint path
  | .segments qualifier last, depth, deep => by
      simp only [PathSyntax.size] at deep
      exact readsPath_segments (readsSegments qualifier (by omega)) (last.readsSegment (by omega))

theorem readsSegments : (segments : List SegmentSyntax) → {depth : Nat} →
    16 * qualifierSize segments ≤ depth + 1 →
      ∀ segment ∈ segments, ReadsSegment (.ofDepth depth) joint segment
  | [], _, _ => List.forall_mem_nil _
  | first :: others, depth, deep => by
      simp only [qualifierSize] at deep
      exact List.forall_mem_cons.2 ⟨first.readsSegment (by omega), readsSegments others (by omega)⟩

theorem SegmentSyntax.readsSegment : (segment : SegmentSyntax) → {depth : Nat} →
    16 * segment.size ≤ depth + 1 → ReadsSegment (.ofDepth depth) joint segment
  | .root word, _, _ => readsSegment_root word
  | .plain name, _, _ => readsSegment_plain name
  | .angle name arguments, depth, deep => by
      simp only [SegmentSyntax.size] at deep
      exact readsSegment_angle name (readsArguments arguments deep)

theorem readsArguments : (arguments : List ArgumentSyntax) → {depth : Nat} →
    16 * (argumentsSize arguments + 1) ≤ depth + 1 →
      ∀ argument ∈ arguments, ReadsArgument (.ofDepth depth) joint argument
  | [], _, _ => List.forall_mem_nil _
  | first :: others, depth, deep => by
      simp only [argumentsSize] at deep
      exact List.forall_mem_cons.2
        ⟨first.readsArgument (by omega), readsArguments others (by omega)⟩

theorem ArgumentSyntax.readsArgument : (argument : ArgumentSyntax) → {depth : Nat} →
    16 * (argument.size + 1) ≤ depth + 1 → ReadsArgument (.ofDepth depth) joint argument
  | .lifetime name, _, _ => readsArgument_lifetime name
  | .constant literal, _, _ => readsArgument_constant literal
  | .type inner, depth, deep => by
      simp only [ArgumentSyntax.size] at deep
      exact readsArgument_type (inner.readsType (by omega))
  | .binding name inner, depth, deep => by
      simp only [ArgumentSyntax.size] at deep
      obtain ⟨depth, rfl⟩ := Nat.exists_eq_add_of_le' (show 1 ≤ depth by omega)
      exact readsArgument_binding (readsType_nameType joint name depth)
        (inner.readsType (by omega))

end

/-- A text with the trees of a type is read as the type. -/
theorem TypeSyntax.parse?_of_trees {text : List Char} (type : TypeSyntax)
    (written : trees? text = some (type.write joint [])) : Ty.parse? text = some type.toTy := by
  have deep : 16 * type.size ≤ 16 * (treesSize (type.write joint []) + 4) := by
    have := (type.precedes_write joint []).size_le
    omega
  have read := type.readsType joint deep true false [] .nil
  simp [Ty.parse?, written, Rule.parseAll, Grammar.forTrees, read, TypeSyntax.form]

end Whole

/-! ## Types with one written form -/

/-- A plain name as a name in a path. -/
def PlainName.toPathName (name : PlainName) : PathName := ⟨name.ident, .inl name.free⟩

/-- A name in a path with the arguments that follow it. -/
def lastSegment (name : PathName) : List ArgumentSyntax → SegmentSyntax
  | [] => .plain name
  | first :: others => .angle name (first :: others)

theorem ident_lastSegment (name : PathName) (arguments : List ArgumentSyntax) :
    (lastSegment name arguments).ident = name.ident := by
  cases arguments <;> rfl

theorem types_lastSegment (name : PathName) (arguments : List ArgumentSyntax) :
    (lastSegment name arguments).types = typesOf arguments := by
  cases arguments <;> rfl

/-- Whether trees start with a mark. -/
def startsWithMark : List Tree → Bool
  | .punct _ _ :: _ => true
  | _ => false

/-- Only commas are written with a blank after them, so that no mark follows them at once. -/
def closeSet (mark : Char) (rest : List Tree) : Bool := mark != ',' && startsWithMark rest

namespace TypeText

mutual

/-- A type with all that its syntax has room for. -/
def toSyntax : TypeText → TypeSyntax
  | path rooted qualifier name arguments =>
      .path rooted (.segments (qualifier.map fun name => .plain name.toPathName)
        (lastSegment name.toPathName (toArguments arguments)))
  | slice element => .slice element.toSyntax
  | reference target => .reference none false target.toSyntax

/-- Types as arguments. -/
def toArguments : List TypeText → List ArgumentSyntax
  | [] => []
  | type :: types => .type type.toSyntax :: toArguments types

end

mutual

theorem toTy_toSyntax : (type : TypeText) → type.toSyntax.toTy = type.toTy
  | path rooted qualifier name arguments => by
      simp only [toSyntax, TypeSyntax.toTy, PathSyntax.toTy, ident_lastSegment, types_lastSegment,
        typesOf_toArguments arguments, toTy, List.map_map]
      rfl
  | slice element => by
      simp only [toSyntax, TypeSyntax.toTy, toTy, toTy_toSyntax element]
  | reference target => by
      simp only [toSyntax, TypeSyntax.toTy, toTy, toTy_toSyntax target]

theorem typesOf_toArguments : (types : List TypeText) → typesOf (toArguments types) = toTys types
  | [] => rfl
  | type :: types => by
      simp only [toArguments, typesOf, toTys, toTy_toSyntax type, typesOf_toArguments types]

end

theorem startsWithMark_trees (type : TypeText) (joint : Bool) (rest : List Tree) :
    startsWithMark (type.trees joint ++ rest) = type.startsMark := by
  cases type with
  | path rooted qualifier name arguments =>
      cases rooted with
      | true => rfl
      | false => cases qualifier <;> rfl
  | slice element => rfl
  | reference target => rfl

theorem startsWithMark_moreTrees (joint : Bool) (others : List TypeText) (rest : List Tree) :
    startsWithMark (moreTrees joint others ++ rest) = true := by
  cases others <;> rfl

theorem colonsThen_of_unmarked {trees : List Tree} (unmarked : startsWithMark trees = false) :
    colonsThen closeSet trees = colons ++ trees := by
  simp [colonsThen, markThen, closeSet, unmarked, colons]

theorem rootThen_of_unmarked (rooted : Bool) {trees : List Tree}
    (unmarked : startsWithMark trees = false) :
    rootThen closeSet rooted trees = rootTrees rooted ++ trees := by
  cases rooted with
  | true => exact colonsThen_of_unmarked unmarked
  | false => rfl

theorem unmarked_qualifier (qualifier : List PlainName) (ident : Ident) (trees : List Tree) :
    startsWithMark (qualifierTrees qualifier ++ .ident ident :: trees) = false := by
  cases qualifier <;> rfl

theorem write_qualifier (qualifier : List PlainName) (ident : Ident) (trees : List Tree) :
    writeQualifier closeSet (qualifier.map fun name => .plain name.toPathName)
        (.ident ident :: trees) = qualifierTrees qualifier ++ .ident ident :: trees := by
  induction qualifier with
  | nil => rfl
  | cons first qualifier induction =>
      have unmarked := unmarked_qualifier qualifier ident trees
      simp only [List.map_cons, writeQualifier, induction, SegmentSyntax.write,
        colonsThen_of_unmarked unmarked]
      simp [qualifierTrees, PlainName.toPathName]

mutual

theorem write_toSyntax : (type : TypeText) → (rest : List Tree) →
    type.toSyntax.write closeSet rest = type.trees (startsWithMark rest) ++ rest
  | path rooted qualifier name arguments, rest => by
      have last := write_lastSegment name arguments rest
      have unmarked := unmarked_qualifier qualifier name.ident
        (argumentTrees (startsWithMark rest) arguments ++ rest)
      simp only [toSyntax, TypeSyntax.write, PathSyntax.write, last, write_qualifier,
        rootThen_of_unmarked rooted unmarked]
      simp [trees]
  | slice element, rest => by
      have inner := write_toSyntax element []
      simp only [toSyntax, TypeSyntax.write, inner, List.append_nil]
      rfl
  | reference target, rest => by
      have inner := write_toSyntax target rest
      simp only [toSyntax, TypeSyntax.write, lifetimeThen?, mutThen, Bool.false_eq_true, if_false,
        inner, markThen, closeSet, startsWithMark_trees]
      rfl

theorem write_lastSegment (name : PlainName) : (arguments : List TypeText) → (rest : List Tree) →
    (lastSegment name.toPathName (toArguments arguments)).write closeSet rest =
      .ident name.ident :: (argumentTrees (startsWithMark rest) arguments ++ rest)
  | [], _ => rfl
  | first :: others, rest => by
      have inner := write_toSyntax first (moreTrees (startsWithMark rest) others ++ rest)
      rw [startsWithMark_moreTrees] at inner
      simp only [toArguments, lastSegment, SegmentSyntax.write, writeArguments,
        ArgumentSyntax.write, write_more others rest, inner, markThen, closeSet,
        startsWithMark_trees]
      simp [argumentTrees, PlainName.toPathName]

theorem write_more : (others : List TypeText) → (rest : List Tree) →
    writeMoreArguments closeSet (toArguments others) rest =
      moreTrees (startsWithMark rest) others ++ rest
  | [], rest => rfl
  | next :: others, rest => by
      have inner := write_toSyntax next (moreTrees (startsWithMark rest) others ++ rest)
      rw [startsWithMark_moreTrees] at inner
      simp only [toArguments, writeMoreArguments, ArgumentSyntax.write, write_more others rest,
        inner, markThen, closeSet]
      simp [moreTrees]

end

/-- The text of a written type is read back as the type. -/
theorem parse?_text (type : TypeText) : Ty.parse? type.text = some type.toTy := by
  have written : trees? type.text = some (type.toSyntax.write closeSet []) := by
    rw [write_toSyntax, List.append_nil]
    exact trees?_text type
  rw [type.toSyntax.parse?_of_trees closeSet written, toTy_toSyntax]

end TypeText

end DocApi.Source
