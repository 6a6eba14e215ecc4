import DocApi.Proofs.Source.TypeTrees

/-!
# Reading paths

A grammar that reads the types among the arguments of a path reads the path: segment by segment, and
each segment with its arguments one by one.
-/

namespace DocApi.Source

/-! ## What is read -/

/-- The type that an argument is, when it is one. -/
def ArgumentSyntax.type? : ArgumentSyntax → Option Ty
  | .type inner => some inner.toTy
  | _ => none

theorem typesOf_eq_filterMap (arguments : List ArgumentSyntax) :
    typesOf arguments = arguments.filterMap ArgumentSyntax.type? := by
  induction arguments with
  | nil => rfl
  | cons argument arguments induction =>
      cases argument <;> simp [typesOf, ArgumentSyntax.type?, List.filterMap_cons, induction]

/-- The shape that a type is read with. -/
def TypeSyntax.shape : TypeSyntax → TypeShape
  | .path rooted (.segments qualifier _) => .path (!rooted && qualifier.isEmpty)
  | _ => .other

/-- The form that a type is read as. -/
def TypeSyntax.form (type : TypeSyntax) : TypeForm := ⟨type.toTy, type.shape⟩

/-- What a segment is read as. -/
def SegmentSyntax.form : SegmentSyntax → Grammar.Segment
  | .root word => ⟨word.ident, .none⟩
  | .plain name => ⟨name.ident, .none⟩
  | .angle name arguments => ⟨name.ident, .angle (typesOf arguments) arguments.isEmpty⟩

/-- What a path is read as. -/
def PathSyntax.form (qualified rooted : Bool) : PathSyntax → Grammar.PathForm
  | .segments qualifier last =>
      ⟨qualified, rooted, (qualifier.map SegmentSyntax.form).reverse, last.form⟩

theorem SegmentSyntax.form_name (segment : SegmentSyntax) : segment.form.name = segment.ident := by
  cases segment <;> rfl

theorem PathSyntax.toType_form (rooted : Bool) (path : PathSyntax) :
    (path.form false rooted).toType = (TypeSyntax.path rooted path).form := by
  obtain ⟨qualifier, last⟩ := path
  have names : (qualifier.map SegmentSyntax.form).map Grammar.Segment.name =
      qualifier.map SegmentSyntax.ident := by
    simp [List.map_map, Function.comp_def, SegmentSyntax.form_name]
  simp only [form, Grammar.PathForm.toType, Bool.false_eq_true, if_false, List.reverse_reverse,
    names, SegmentSyntax.form_name, List.isEmpty_reverse, List.isEmpty_map, TypeSyntax.form,
    TypeSyntax.toTy, toTy, TypeSyntax.shape]
  cases last <;> rfl

namespace Grammar

open Rule

section Reading

variable {g : Grammar} {joint : Char → List Tree → Bool} {stray : Bool} {found : List Item}
  {trees : List Tree}

variable (g joint) in
/-- A grammar reads a type wherever it may stand. -/
def ReadsType (type : TypeSyntax) : Prop :=
  ∀ (allowPlus : Bool) {rest : List Tree} (stray : Bool) (found : List Item), EndsType rest →
    g.type allowPlus ⟨type.write joint rest, stray, found⟩ = some (type.form, ⟨rest, stray, found⟩)

/-! ## Arguments -/

/-- What may follow an argument: a comma or the end of the arguments. -/
inductive EndsArgument : List Tree → Prop
  | comma (joint : Bool) (trees : List Tree) : EndsArgument (.punct ',' joint :: trees)
  | close (joint : Bool) (trees : List Tree) : EndsArgument (.punct '>' joint :: trees)

theorem EndsArgument.endsType (ends : EndsArgument trees) : EndsType trees := by
  cases ends with
  | comma joint trees => exact .punct (by decide) joint trees
  | close joint trees => exact .punct (by decide) joint trees

theorem EndsArgument.startsPunct (ends : EndsArgument trees) {mark : Char}
    (other : mark ≠ ',' ∧ mark ≠ '>') : startsPunct [mark] trees = false := by
  cases ends with
  | comma joint trees => exact startsPunct_of_ne other.1 [] joint trees
  | close joint trees => exact startsPunct_of_ne other.2 [] joint trees

variable (g joint) in
/-- A grammar reads an argument. -/
def ReadsArgument (argument : ArgumentSyntax) : Prop :=
  ∀ {rest : List Tree} (stray : Bool) (found : List Item), EndsArgument rest →
    genericArgument g ⟨argument.write joint rest, stray, found⟩ =
      some (argument.type?, ⟨rest, stray, found⟩)

theorem readsArgument_lifetime (name : Ident) : ReadsArgument g joint (.lifetime name) := by
  intro rest stray found ends
  have noBound : isPunct "+" rest = false := ends.startsPunct (by decide)
  have alone : second (isPunct "+") (lifetimeThen name rest) = isPunct "+" rest := rfl
  have starts : isLifetime (lifetimeThen name rest) = true := rfl
  unfold genericArgument
  simp only [ArgumentSyntax.write, ahead_bind_apply, starts, alone, noBound, Bool.not_false,
    Bool.and_self, if_true]
  rfl

theorem readsArgument_constant (literal : Literal) : ReadsArgument g joint (.constant literal) := by
  intro rest stray found ends
  rfl

/-- What is left to do after a type among arguments, where its trees are read as a type. -/
theorem genericArgument_of_type {type : TypeSyntax} (reads : ReadsType g joint type)
    (ends : EndsType trees) :
    genericArgument g ⟨type.write joint trees, stray, found⟩ =
      (do
        if type.shape = .path true then
          if ← punct? "=" then
            if ← ahead fun trees => isLiteral trees || isGroup .brace trees then constantArgument g
            else
              let _ ← g.type true
            return none
          else if ← punct? ":" then
            boundsUntil g true fun trees => isPunct "," trees || isPunct ">" trees
            return none
          else return some type.toTy
        else return some type.toTy : Rule (Option Ty)) ⟨trees, stray, found⟩ := by
  have starts := type.startsType_write joint ends
  unfold genericArgument
  simp only [ahead_bind_apply, starts.isLifetime, Bool.false_and, Bool.false_eq_true, if_false,
    starts.isConstant]
  rw [bind_apply (reads true stray found ends)]
  rfl

theorem readsArgument_type {type : TypeSyntax} (reads : ReadsType g joint type) :
    ReadsArgument g joint (.type type) := by
  intro rest stray found ends
  have equals : isPunct "=" rest = false := ends.startsPunct (by decide)
  have colon : isPunct ":" rest = false := ends.startsPunct (by decide)
  refine (genericArgument_of_type reads ends.endsType).trans ?_
  split
  · rw [bind_apply (punct?_of_absent equals)]
    simp only [Bool.false_eq_true, if_false]
    rw [bind_apply (punct?_of_absent colon)]
    rfl
  · rfl

/-- A name as a type of its own. -/
def nameType (name : PathName) : TypeSyntax := .path false (.segments [] (.plain name))

theorem readsArgument_binding {name : PathName} {type : TypeSyntax}
    (named : ReadsType g joint (nameType name)) (reads : ReadsType g joint type) :
    ReadsArgument g joint (.binding name type) := by
  intro rest stray found ends
  have starts := type.startsType_write joint ends.endsType
  have equals : EndsType (markThen joint '=' (type.write joint rest)) := .punct (by decide) _ _
  have passed : punct? "=" ⟨markThen joint '=' (type.write joint rest), stray, found⟩ =
      some (true, ⟨type.write joint rest, stray, found⟩) := rfl
  refine (genericArgument_of_type named equals).trans ?_
  have simple : (nameType name).shape = .path true := rfl
  rw [if_pos simple, bind_apply passed]
  simp only [if_true, ahead_bind_apply, starts.isConstant, Bool.false_eq_true, if_false]
  rw [bind_apply (reads true stray found ends.endsType)]
  rfl

/-- An argument starts with no mark that a type cannot start with, but for that of a lifetime. -/
theorem startsPunct_argument (argument : ArgumentSyntax) (ends : EndsArgument trees) {mark : Char}
    (other : mark ∉ [':', '<', '&', '*', '!', '\'']) (marks : List Char) :
    startsPunct (mark :: marks) (argument.write joint trees) = false := by
  have otherType : mark ∉ [':', '<', '&', '*', '!'] := fun known =>
    other (List.mem_append_left ['\''] known)
  cases argument with
  | lifetime name => exact startsPunct_of_ne (by rintro rfl; exact other (by decide)) marks _ _
  | constant literal => exact startsPunct_literal mark marks literal trees
  | type type => exact (type.startsType_write joint ends.endsType).startsPunct otherType marks
  | binding name type => exact startsPunct_ident mark marks _ _

theorem startsPunct_less_argument (argument : ArgumentSyntax) (ends : EndsArgument trees) :
    startsPunct ['<', '='] (argument.write joint trees) = false := by
  cases argument with
  | lifetime name => rfl
  | constant literal => rfl
  | type type => exact (type.startsType_write joint ends.endsType).startsPunct_less
  | binding name type => rfl

/-- One step of reading arguments. -/
def argumentStep (g : Grammar) (done : List (Option Ty)) :
    Rule (Step (List (Option Ty)) (List (Option Ty))) := do
  if ← ahead (isPunct ">") then return .done done.reverse
  let argument ← genericArgument g
  if ← ahead (isPunct ">") then return .done (argument :: done).reverse
  punct ","
  return .again (argument :: done)

/-- A step reads one argument and looks at what follows it. -/
theorem argumentStep_of_reads {argument : ArgumentSyntax} (reads : ReadsArgument g joint argument)
    (done : List (Option Ty)) (ends : EndsArgument trees) :
    argumentStep g done ⟨argument.write joint trees, stray, found⟩ =
      (do
        if ← ahead (isPunct ">") then return .done (argument.type? :: done).reverse
        punct ","
        return .again (argument.type? :: done) : Rule (Step _ _)) ⟨trees, stray, found⟩ := by
  have unclosed : isPunct ">" (argument.write joint trees) = false :=
    startsPunct_argument argument ends (by decide) []
  unfold argumentStep
  simp only [ahead_bind_apply, unclosed, Bool.false_eq_true, if_false]
  rw [bind_apply (reads stray found ends)]
  rfl

variable (joint) in
/-- What follows an argument. -/
theorem endsArgument_writeMore (others : List ArgumentSyntax) (rest : List Tree) :
    EndsArgument (writeMoreArguments joint others rest) := by
  cases others with
  | nil => exact .close _ _
  | cons next others => exact .comma _ _

/-- The steps read one argument after the other, up to the end of the arguments. -/
theorem runs_arguments {first : ArgumentSyntax} {others : List ArgumentSyntax}
    (reads : ∀ argument ∈ first :: others, ReadsArgument g joint argument) (rest : List Tree) :
    Runs (argumentStep g) [] ⟨writeArguments joint (first :: others) rest, stray, found⟩
      ((first :: others).map ArgumentSyntax.type?) ⟨markThen joint '>' rest, stray, found⟩ := by
  have runs := runs_items
    (fun arguments => ⟨writeArguments joint arguments rest, stray, found⟩)
    (fun done argument => argument.type? :: done) List.reverse
    (fun done _ next others reads =>
      argumentStep_of_reads reads done (endsArgument_writeMore joint (next :: others) rest))
    (fun argument next others => Nat.lt_of_succ_le
      (argument.precedes_write joint (writeMoreArguments joint (next :: others) rest)).length_le)
    (fun done _ reads => argumentStep_of_reads reads done (endsArgument_writeMore joint [] rest))
    [] reads
  rwa [List.foldl_flip_cons_eq_append, List.append_nil, List.reverse_reverse] at runs

/-- Arguments in angle brackets are read as the types among them. -/
theorem angleArguments_of_reads {arguments : List ArgumentSyntax}
    (reads : ∀ argument ∈ arguments, ReadsArgument g joint argument) (rest : List Tree) :
    angleArguments g ⟨markThen joint '<' (writeArguments joint arguments rest), stray, found⟩ =
      some (.angle (typesOf arguments) arguments.isEmpty, ⟨rest, stray, found⟩) := by
  have listed : loop (argumentStep g) [] ⟨writeArguments joint arguments rest, stray, found⟩ =
      some (arguments.map ArgumentSyntax.type?, ⟨markThen joint '>' rest, stray, found⟩) := by
    refine Runs.loop ?_
    cases arguments with
    | nil => exact .done rfl
    | cons first others => exact runs_arguments reads rest
  have opened : punct "<" ⟨markThen joint '<' (writeArguments joint arguments rest), stray, found⟩ =
      some ((), ⟨writeArguments joint arguments rest, stray, found⟩) := rfl
  have closed : punct ">" ⟨markThen joint '>' rest, stray, found⟩ =
      some ((), ⟨rest, stray, found⟩) := rfl
  change (punct "<" >>= fun _ => loop (argumentStep g) [] >>= fun arguments =>
    punct ">" >>= fun _ => pure (.angle (arguments.filterMap id) arguments.isEmpty) :
      Rule SegmentArguments) _ = _
  rw [bind_apply opened, bind_apply listed, bind_apply closed]
  simp [typesOf_eq_filterMap, List.filterMap_map]

/-! ## Segments -/

/-- What may follow a segment without arguments: no arguments, with or without colons. -/
structure EndsSegment (trees : List Tree) : Prop where
  angle : isPunct "<" trees = false
  colons : (isPunct "::" trees && third (isPunct "<") trees) = false

theorem endsSegment_of_endsType (ends : EndsType trees) : EndsSegment trees where
  angle := ends.mark '<' (by decide)
  colons := by
    have absent : isPunct "::" trees = false := ends.startsPunct (by decide) [':']
    rw [absent, Bool.false_and]

variable (joint) in
theorem endsSegment_colonsThen (starts : StartsSegment trees) :
    EndsSegment (colonsThen joint trees) := by
  cases starts with
  | word usable follows => exact ⟨rfl, rfl⟩

variable (g joint) in
/-- A grammar reads a segment. -/
def ReadsSegment (segment : SegmentSyntax) : Prop :=
  ∀ {rest : List Tree} (stray : Bool) (found : List Item), EndsSegment rest →
    Grammar.segment g false ⟨segment.write joint rest, stray, found⟩ =
      some (segment.form, ⟨rest, stray, found⟩)

theorem readsSegment_root (word : RootWord) : ReadsSegment g joint (.root word) := by
  intro rest stray found _
  have root : (isWord "super" (.ident word.ident :: rest) ||
      isWord "self" (.ident word.ident :: rest) || isWord "crate" (.ident word.ident :: rest) ||
      isWord "try" (.ident word.ident :: rest)) = true := by
    cases word <;> simp [isWord, RootWord.ident, Ident.isWord]
  unfold Grammar.segment
  simp only [SegmentSyntax.write, ahead_bind_apply, root, if_true]
  rfl

/-- After a name a segment goes on with arguments or ends. -/
theorem segment_of_name (name : PathName) (trees : List Tree) :
    segment g false ⟨.ident name.ident :: trees, stray, found⟩ =
      (do
        if ← ahead fun trees =>
            (isPunct "<" trees && !isPunct "<=" trees && !isPunct "<<=" trees) ||
              (isPunct "::" trees && third (isPunct "<") trees) then
          let _ ← punct? "::"
          return ⟨name.ident, ← angleArguments g⟩
        else return ⟨name.ident, .none⟩ : Rule Segment) ⟨trees, stray, found⟩ := by
  have usable : name.ident.Usable ["Self"] :=
    name.usable.imp_right fun isSelf => ⟨"Self", by decide, isSelf⟩
  have word : ∀ {text}, text ∈ keywords → text ∉ ["Self"] →
      isWord text (.ident name.ident :: trees) = false := usable.isWord
  unfold segment
  rw [ahead_bind_apply]
  simp only [word (show "super" ∈ keywords by decide) (by decide),
    word (show "self" ∈ keywords by decide) (by decide),
    word (show "crate" ∈ keywords by decide) (by decide),
    word (show "try" ∈ keywords by decide) (by decide), Bool.or_self, Bool.false_eq_true, if_false,
    ahead_bind_apply]
  split
  · have read : anyIdent ⟨.ident name.ident :: trees, stray, found⟩ =
        some (name.ident, ⟨trees, stray, found⟩) := rfl
    rw [bind_apply read]
    rfl
  · rename_i notSelf
    have read : ident ⟨.ident name.ident :: trees, stray, found⟩ =
        some (name.ident, ⟨trees, stray, found⟩) := by
      simp [ident, name.usable.resolve_right notSelf]
    rw [bind_apply read]
    rfl

theorem readsSegment_plain (name : PathName) : ReadsSegment g joint (.plain name) := by
  intro rest stray found ends
  refine (segment_of_name name rest).trans ?_
  simp only [ahead_bind_apply, ends.angle, ends.colons, Bool.false_and, Bool.or_self,
    Bool.false_eq_true, if_false]
  rfl

variable (joint) in
/-- The first argument, or the end of the arguments, does not go on with a comparison. -/
theorem startsPunct_writeArguments (arguments : List ArgumentSyntax) (rest : List Tree) :
    startsPunct ['='] (writeArguments joint arguments rest) = false ∧
      startsPunct ['<', '='] (writeArguments joint arguments rest) = false := by
  cases arguments with
  | nil => exact ⟨rfl, rfl⟩
  | cons first others =>
      have ends := endsArgument_writeMore joint others rest
      exact ⟨startsPunct_argument first ends (by decide) [], startsPunct_less_argument first ends⟩

theorem readsSegment_angle (name : PathName) {arguments : List ArgumentSyntax}
    (reads : ∀ argument ∈ arguments, ReadsArgument g joint argument) :
    ReadsSegment g joint (.angle name arguments) := by
  intro rest stray found _
  obtain ⟨noEquals, noLess⟩ := startsPunct_writeArguments joint arguments rest
  have angle : ∀ trees, isPunct "<" (markThen joint '<' trees) = true := fun _ => rfl
  -- A comparison would not be taken for the start of arguments.
  have notLess :
      isPunct "<=" (markThen joint '<' (writeArguments joint arguments rest)) = false := by
    refine (startsPunct_cons_cons '<' '=' [] _ _).trans ?_
    rw [noEquals, Bool.and_false]
  have notShift :
      isPunct "<<=" (markThen joint '<' (writeArguments joint arguments rest)) = false := by
    refine (startsPunct_cons_cons '<' '<' ['='] _ _).trans ?_
    rw [noLess, Bool.and_false]
  have noColons : ∀ trees, isPunct "::" (markThen joint '<' trees) = false := fun _ => rfl
  refine (segment_of_name name _).trans ?_
  simp only [ahead_bind_apply, angle, notLess, notShift, Bool.not_false, Bool.and_self,
    Bool.true_or, if_true]
  rw [bind_apply (punct?_of_absent (noColons _)), bind_apply (angleArguments_of_reads reads rest)]
  rfl

/-! ## Paths -/

/-- A step of reading a path: it goes on with the segment after two colons, and ends where there
are none. -/
structure IsPathStep (g : Grammar) (joint : Char → List Tree → Bool)
    (step : PathForm → Rule (Step PathForm PathForm)) : Prop where
  again : ∀ {trees : List Tree} {stray : Bool} {found : List Item} {read : Segment}
    {after : Cursor} (path : PathForm), StartsSegment trees →
      segment g false ⟨trees, stray, found⟩ = some (read, after) →
        step path ⟨colonsThen joint trees, stray, found⟩ = some (.again (path.push read), after)
  done : ∀ {trees : List Tree} {stray : Bool} {found : List Item} (path : PathForm),
    isPunct "::" trees = false → step path ⟨trees, stray, found⟩ =
      some (.done path, ⟨trees, stray, found⟩)

/-- One step of reading a path that starts with a name. -/
def plainStep (g : Grammar) (path : PathForm) : Rule (Step PathForm PathForm) := do
  if ← ahead fun trees => isPunct "::" trees && !third (isGroup .paren) trees then
    punct "::"
    return .again (path.push (← segment g false))
  else return .done path

/-- One step of reading a path that starts with a type in brackets. -/
def memberStep (g : Grammar) (path : PathForm) : Rule (Step PathForm PathForm) := do
  if ← punct? "::" then return .again (path.push (← segment g false))
  else return .done path

theorem isPathStep_plainStep : IsPathStep g joint (plainStep g) where
  again := by
    intro trees stray found read after path starts reads
    have passed : punct "::" ⟨colonsThen joint trees, stray, found⟩ =
        some ((), ⟨trees, stray, found⟩) := rfl
    have colons : (isPunct "::" (colonsThen joint trees) &&
        !third (isGroup .paren) (colonsThen joint trees)) = true := by
      cases starts with
      | word usable follows => rfl
    unfold plainStep
    simp only [ahead_bind_apply, colons, if_true]
    rw [bind_apply passed, bind_apply reads]
    rfl
  done := by
    intro trees stray found path absent
    simp [plainStep, absent]

theorem isPathStep_memberStep : IsPathStep g joint (memberStep g) where
  again := by
    intro trees stray found read after path _ reads
    have passed : punct? "::" ⟨colonsThen joint trees, stray, found⟩ =
        some (true, ⟨trees, stray, found⟩) := rfl
    unfold memberStep
    rw [bind_apply passed]
    simp only [if_true]
    rw [bind_apply reads]
    rfl
  done := by
    intro trees stray found path absent
    unfold memberStep
    rw [bind_apply (punct?_of_absent absent)]
    rfl

section Path

variable {last : SegmentSyntax} {step : PathForm → Rule (Step PathForm PathForm)}

variable (g joint) in
/-- A grammar reads a path by its segments, however it goes from one to the next. -/
def ReadsPath (path : PathSyntax) : Prop :=
  ∀ {step : PathForm → Rule (Step PathForm PathForm)}, IsPathStep g joint step →
    ∀ (qualified rooted : Bool) {rest : List Tree} (stray : Bool) (found : List Item),
      EndsType rest →
        (segment g false >>= fun first => loop step ⟨qualified, rooted, [], first⟩)
            ⟨path.write joint rest, stray, found⟩ =
          some (path.form qualified rooted, ⟨rest, stray, found⟩)

/-- The steps read one segment after the other, up to the end of the path. -/
theorem runs_segments (isStep : IsPathStep g joint step) {qualifier : List SegmentSyntax}
    (reads : ∀ segment ∈ qualifier, ReadsSegment g joint segment)
    (readsLast : ReadsSegment g joint last) (path : PathForm) (stray : Bool) (found : List Item)
    (ends : EndsType trees) :
    Runs step path
      ⟨colonsThen joint (writeQualifier joint qualifier (last.write joint trees)), stray, found⟩
      ⟨path.qualified, path.rooted,
        (qualifier.map SegmentSyntax.form).reverse ++ path.last :: path.before, last.form⟩
      ⟨trees, stray, found⟩ := by
  induction qualifier generalizing path with
  | nil =>
      have finished : isPunct "::" trees = false := ends.startsPunct (by decide) [':']
      have shorter := (last.precedes_write joint trees).length_le
      exact .again
        (isStep.again path (last.startsSegment_write joint ends.followsWord)
          (readsLast stray found (endsSegment_of_endsType ends)))
        (Nat.lt_succ_of_lt (Nat.lt_succ_of_le shorter)) (.done (isStep.done _ finished))
  | cons first qualifier induction =>
      have starts := (PathSyntax.segments (first :: qualifier) last).startsSegment_write joint
        ends.followsWord
      have startsLater := (PathSyntax.segments qualifier last).startsSegment_write joint
        ends.followsWord
      have later := induction
        (fun segment member => reads segment (List.mem_cons_of_mem first member))
        (path.push first.form)
      have shorter := (first.precedes_write joint
        (colonsThen joint (writeQualifier joint qualifier (last.write joint trees)))).length_le
      refine .again (isStep.again path starts (reads first List.mem_cons_self stray found
        (endsSegment_colonsThen joint startsLater))) (Nat.lt_succ_of_lt (Nat.lt_succ_of_le shorter))
        ?_
      simpa [PathForm.push] using later

theorem readsPath_segments {qualifier : List SegmentSyntax}
    (reads : ∀ segment ∈ qualifier, ReadsSegment g joint segment)
    (readsLast : ReadsSegment g joint last) :
    ReadsPath g joint (.segments qualifier last) := by
  intro step isStep qualified rooted rest stray found ends
  cases qualifier with
  | nil =>
      have finished : isPunct "::" rest = false := ends.startsPunct (by decide) [':']
      exact (bind_apply (readsLast stray found (endsSegment_of_endsType ends))).trans
        (Runs.done (isStep.done _ finished)).loop
  | cons first qualifier =>
      have startsLater := (PathSyntax.segments qualifier last).startsSegment_write joint
        ends.followsWord
      have later := runs_segments isStep
        (fun segment member => reads segment (List.mem_cons_of_mem first member)) readsLast
        ⟨qualified, rooted, [], first.form⟩ stray found ends
      refine (bind_apply (reads first List.mem_cons_self stray found
        (endsSegment_colonsThen joint startsLater))).trans (later.loop.trans ?_)
      simp [PathSyntax.form]

variable {path : PathSyntax} (reads : ReadsPath g joint path) (ends : EndsType trees)
include reads ends

/-- A path that starts with a name is read by its segments. -/
theorem plainPath_of_reads (rooted : Bool) :
    plainPath g false ⟨rootThen joint rooted (path.write joint trees), stray, found⟩ =
      some (path.form false rooted, ⟨trees, stray, found⟩) := by
  have start : punct? "::" ⟨rootThen joint rooted (path.write joint trees), stray, found⟩ =
      some (rooted, ⟨path.write joint trees, stray, found⟩) := by
    cases rooted with
    | true => rfl
    | false =>
        have starts := path.startsSegment_write joint ends.followsWord
        exact punct?_of_absent (starts.startsPunct ':' [':'])
  exact (bind_apply start).trans (reads isPathStep_plainStep false rooted stray found ends)

theorem pathType_of_plainPath (allowPlus rooted : Bool) :
    pathType g allowPlus false ⟨rootThen joint rooted (path.write joint trees), stray, found⟩ =
      some ((TypeSyntax.path rooted path).form, ⟨trees, stray, found⟩) := by
  have starts := path.startsSegment_write joint ends.followsWord
  have unqualified : isPunct "<" (rootThen joint rooted (path.write joint trees)) = false :=
    startsPunct_rootThen joint rooted starts (by decide) []
  have read : qualifiedPath g false
      ⟨rootThen joint rooted (path.write joint trees), stray, found⟩ =
      some (path.form false rooted, ⟨trees, stray, found⟩) := by
    unfold qualifiedPath
    simp only [ahead_bind_apply, unqualified, Bool.false_eq_true, if_false]
    exact plainPath_of_reads reads ends rooted
  have noCall : isPunct "!" trees = false := ends.mark '!' (by decide)
  have noSum : isPunct "+" trees = false := ends.mark '+' (by decide)
  have plain : (path.form false rooted).qualified = false := by cases path; rfl
  unfold pathType
  rw [bind_apply read]
  simp only [plain, ahead_bind_apply, noCall, noSum, Bool.false_and, Bool.and_false, Bool.or_self,
    Bool.false_eq_true, if_false, pure_apply, PathSyntax.toType_form]

end Path

/-! ## Members -/

@[simp] theorem isWord_keyword (word : String) (nonempty : word ≠ "") (trees : List Tree) :
    isWord word (keyword word nonempty :: trees) = true := by
  simp [isWord, keyword, Ident.isWord]

theorem word_of_keyword {word : String} (nonempty : word ≠ "") (trees : List Tree) :
    Rule.word word ⟨keyword word nonempty :: trees, stray, found⟩ =
      some ((), ⟨trees, stray, found⟩) := by
  simp [Rule.word]

theorem word?_of_keyword {word : String} (nonempty : word ≠ "") (trees : List Tree) :
    word? word ⟨keyword word nonempty :: trees, stray, found⟩ =
      some (true, ⟨trees, stray, found⟩) := by
  simp only [word?, ahead_bind_apply, isWord_keyword, if_true]
  exact (bind_apply (word_of_keyword nonempty trees)).trans rfl

/-- The rest of a path after the type in brackets that it starts with. -/
def memberRest (g : Grammar) : Rule PathForm := do
  punct ">"
  punct "::"
  let first ← segment g false
  loop (memberStep g) ⟨true, false, [], first⟩

section Member

variable {self : TypeSyntax} {path : PathSyntax} (readsSelf : ReadsType g joint self)
  (reads : ReadsPath g joint path) (ends : EndsType trees)

include reads ends in
theorem memberRest_of_reads :
    memberRest g ⟨markThen joint '>' (colonsThen joint (path.write joint trees)), stray, found⟩ =
      some (path.form true false, ⟨trees, stray, found⟩) := by
  have closed : punct ">"
      ⟨markThen joint '>' (colonsThen joint (path.write joint trees)), stray, found⟩ =
      some ((), ⟨colonsThen joint (path.write joint trees), stray, found⟩) := rfl
  have passed : punct "::" ⟨colonsThen joint (path.write joint trees), stray, found⟩ =
      some ((), ⟨path.write joint trees, stray, found⟩) := rfl
  unfold memberRest
  rw [bind_apply closed, bind_apply passed]
  exact reads isPathStep_memberStep true false stray found ends

include readsSelf reads ends in
theorem qualifiedPath_of_member :
    qualifiedPath g false ⟨(TypeSyntax.member self path).write joint trees, stray, found⟩ =
      some (path.form true false, ⟨trees, stray, found⟩) := by
  have opened : ∀ inner, punct "<" ⟨markThen joint '<' inner, stray, found⟩ =
      some ((), ⟨inner, stray, found⟩) := fun _ => rfl
  have starts : ∀ inner, isPunct "<" (markThen joint '<' inner) = true := fun _ => rfl
  have plain : ∀ inner, isWord "as" (markThen joint '>' inner) = false := fun _ => rfl
  unfold qualifiedPath
  simp only [TypeSyntax.write, ahead_bind_apply, starts, if_true]
  rw [bind_apply (opened _), bind_apply (readsSelf true stray found (endsType_close joint _)),
    bind_apply (word?_of_absent (plain _))]
  exact memberRest_of_reads reads ends

include readsSelf reads ends in
theorem qualifiedPath_of_traitMember {trait : PathSyntax} (readsTrait : ReadsPath g joint trait)
    (rooted : Bool) :
    qualifiedPath g false
        ⟨(TypeSyntax.traitMember self rooted trait path).write joint trees, stray, found⟩ =
      some (path.form true false, ⟨trees, stray, found⟩) := by
  have opened : ∀ inner, punct "<" ⟨markThen joint '<' inner, stray, found⟩ =
      some ((), ⟨inner, stray, found⟩) := fun _ => rfl
  have starts : ∀ inner, isPunct "<" (markThen joint '<' inner) = true := fun _ => rfl
  unfold qualifiedPath
  simp only [TypeSyntax.write, ahead_bind_apply, starts, if_true]
  rw [bind_apply (opened _), bind_apply (readsSelf true stray found (endsType_keyword _ _)),
    bind_apply (word?_of_keyword _ _)]
  simp only [if_true]
  rw [bind_apply (plainPath_of_reads readsTrait (endsType_close joint _) rooted)]
  exact memberRest_of_reads reads ends

end Member

/-- A path after a type in brackets is read as a type without a schema. -/
theorem pathType_of_qualified {path : PathSyntax} {after : List Tree}
    (read : qualifiedPath g false ⟨trees, stray, found⟩ =
      some (path.form true false, ⟨after, stray, found⟩)) (allowPlus : Bool) :
    pathType g allowPlus false ⟨trees, stray, found⟩ =
      some (⟨.other, .other⟩, ⟨after, stray, found⟩) := by
  have qualified : (path.form true false).qualified = true := by cases path; rfl
  unfold pathType
  rw [bind_apply read]
  simp [qualified, PathForm.toType]

end Reading

end Grammar

end DocApi.Source
