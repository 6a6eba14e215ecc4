import DocApi.Proofs.Annotation.Roles
import DocApi.Proofs.Source.DocText
import DocApi.Proofs.Spec.Operations
import Mathlib.Logic.Relation

/-!
# The operation of a routine

A routine adds one operation when its doc comment has a route, and none otherwise. Each kind of
annotation is combined in its own way: the last route and the last body count, parameters and
security schemes are listed, responses are filed by status, and the operation is deprecated as soon
as one route says so. Where the route stands among the other lines does not matter, and lines that
say nothing about an operation have no effect.
-/

namespace DocApi

/-! ## Annotations by what they say of an operation -/

namespace Annotation

/-- The route that an annotation gives. -/
def route? : Annotation → Option RouteLine
  | .route line => some line
  | _ => none

/-- The parameter that an annotation gives. -/
def parameter? : Annotation → Option ParameterLine
  | .parameter line => some line
  | _ => none

/-- The body that an annotation gives. -/
def body? : Annotation → Option BodyLine
  | .body line => some line
  | _ => none

/-- The response that an annotation gives. -/
def response? : Annotation → Option ResponseLine
  | .response line => some line
  | _ => none

/-- The security schemes that an annotation lists. -/
def schemes : Annotation → List String
  | .secure schemes => schemes
  | _ => []

/-- Whether an annotation speaks of the interface as a whole, or of a model. -/
def isIdle : Annotation → Bool
  | .model _ | .field _ => true
  | note => note.isGlobal

end Annotation

/-! ## Marked lines -/

theorem subset_of_mem_linesFrom {pending text line : List Char}
    (member : line ∈ linesFrom pending text) : line ⊆ pending ++ text := by
  induction text generalizing pending with
  | nil =>
      rw [linesFrom] at member
      split at member
      · cases member
      · obtain rfl := List.mem_singleton.1 member
        simp
  | cons c text induction =>
      by_cases newline : c = '\n'
      · subst newline
        rw [linesFrom, List.mem_cons] at member
        rcases member with rfl | later
        · obtain ⟨blanks, -, cut⟩ := exists_endLine pending.reverse
          intro d inside
          have whole : d ∈ pending.reverse := by
            rw [cut]
            exact List.mem_append_left blanks (by simpa [endLine] using inside)
          exact List.mem_append_left _ (List.mem_reverse.1 whole)
        · exact fun d inside => by simpa using Or.inr (Or.inr (induction later inside))
      · rw [linesFrom_cons newline] at member
        intro d inside
        have earlier := induction member inside
        simp only [List.mem_append, List.mem_cons] at earlier ⊢
        tauto

theorem trim_of_splitVerb {line verb rest : List Char}
    (found : splitVerb line = some (verb, rest)) :
    ∃ text, trim line = '!' :: text := by
  unfold splitVerb at found
  split at found
  · rename_i c text trimmed
    exact ⟨c :: text, trimmed⟩
  · cases found

theorem trim_of_lineAnnotation? {line : List Char} {note : Annotation}
    (found : lineAnnotation? line = some note) : ∃ text, trim line = '!' :: text := by
  have parsed := parseLine_of_lineAnnotation? found
  rw [parseLine] at parsed
  split at parsed
  · cases parsed
  · rename_i split
    exact trim_of_splitVerb split

/-- A line with an annotation is marked. -/
theorem isMarked_of_lineAnnotation? {line : List Char} {note : Annotation}
    (found : lineAnnotation? line = some note) : isMarked line = true := by
  obtain ⟨text, trimmed⟩ := trim_of_lineAnnotation? found
  rw [isMarked_eq, trimmed]
  rfl

/-- A text with an annotation has the annotation marker. -/
theorem mem_of_annotations_ne_nil {doc : String} (some : annotations doc ≠ []) :
    '!' ∈ doc.toList := by
  obtain ⟨note, member⟩ := List.exists_mem_of_ne_nil _ some
  obtain ⟨line, listed, found⟩ := List.mem_filterMap.1 member
  obtain ⟨text, trimmed⟩ := trim_of_lineAnnotation? found
  have inside : '!' ∈ line := trim_subset line (by rw [trimmed]; exact List.mem_cons_self)
  exact subset_of_mem_linesFrom listed inside

/-! ## Paths -/

theorem text_ne_empty_of_lexToken {c : Char} {text rest : List Char} {token : Token}
    (solid : isBlank c = false) (lexed : lexToken c text = .ok (token, rest))
    (bare : token.isBare = true) : token.text ≠ "" := by
  have plain : token.isPlain = true := by cases token <;> trivial
  obtain ⟨-, -, classified, -⟩ := lexWord_of_isPlain lexed plain
  have spelled : token.text.toList = (spanWord 0 (c :: text)).1 := by
    rw [← classified, text_classify]
  intro empty
  rw [empty] at spelled
  simp [spanWord, solid] at spelled

/-- A bare token is never empty. -/
theorem text_ne_empty_of_tokens {text : List Char} {found : List Token}
    (lexed : tokens text = .ok found) :
    ∀ token ∈ found, token.isBare = true → token.text ≠ "" := by
  fun_induction tokens text generalizing found with
  | case1 =>
      obtain rfl := Except.ok.inj lexed
      exact List.forall_mem_nil _
  | case2 => cases lexed
  | case3 => cases lexed
  | case4 text c rest start token after first more later induction =>
      obtain rfl := Except.ok.inj lexed
      exact List.forall_mem_cons.2
        ⟨text_ne_empty_of_lexToken (solid_of_trimStart start) first, induction later⟩

theorem subset_of_takeFirst {p : Token → Bool} {tokens rest : List Token} {token : Token}
    (taken : takeFirst p tokens = some (token, rest)) : rest ⊆ tokens := by
  induction tokens generalizing rest with
  | nil => cases taken
  | cons first tokens induction =>
      rw [takeFirst] at taken
      split at taken
      · obtain ⟨-, rfl⟩ := Prod.mk.inj (Option.some.inj taken)
        exact List.subset_cons_self _ _
      · obtain ⟨⟨inner, after⟩, deeper, equality⟩ := Option.map_eq_some_iff.1 taken
        obtain ⟨rfl, rfl⟩ := Prod.mk.inj equality
        exact List.cons_subset_cons first (induction deeper)

theorem takeSwitch_subset (name : String) (tokens : List Token) :
    (takeSwitch name tokens).2 ⊆ tokens := by
  rw [takeSwitch]
  split
  · rename_i taken
    exact subset_of_takeFirst taken
  · exact List.Subset.refl _

namespace LineTokens

theorem mem_of_requireBare {verb what text : String} {tokens rest : List Token}
    (taken : requireBare verb what tokens = .ok (text, rest)) :
    ∃ token ∈ tokens, token.isBare = true ∧ token.text = text := by
  unfold requireBare at taken
  split at taken
  · split at taken
    · rename_i bare
      obtain ⟨spelled, -⟩ := Prod.mk.inj (Except.ok.inj taken)
      exact ⟨_, List.mem_cons_self, bare, spelled⟩
    · cases taken
  · cases taken

/-- Only a line whose verb is a method is read as a route, and its path is a bare token. -/
theorem exists_path_of_read {line : LineTokens} {word : String} {verb : Verb} {route : RouteLine}
    (read : line.read word verb = .ok (.route route)) :
    ∃ token ∈ line.positional, token.isBare = true ∧ token.text = route.path := by
  cases verb with
  | route method =>
      simp only [LineTokens.read, LineTokens.route, bind, Except.bind, pure, Except.pure] at read
      split at read
      · cases read
      · rename_i made
        obtain rfl := Annotation.route.inj (Except.ok.inj read)
        split at made
        · cases made
        · rename_i taken
          obtain ⟨token, listed, bare, spelled⟩ := mem_of_requireBare taken
          refine ⟨token, takeSwitch_subset _ _ listed, bare, spelled.trans ?_⟩
          -- An operation id that is missing after an arrow is an error; either way the path stays.
          split at made
          · split at made
            · cases made
            · rw [← Except.ok.inj made]
          · rw [← Except.ok.inj made]
  | response outcome => cases read
  | model => cases read
  | _ =>
      simp only [LineTokens.read, bind, Except.bind] at read
      split at read <;> cases read

end LineTokens

theorem path_ne_empty_of_mem_annotations {doc : String} {line : RouteLine}
    (member : .route line ∈ annotations doc) : line.path ≠ "" := by
  obtain ⟨text, -, found⟩ := List.mem_filterMap.1 member
  obtain ⟨rest, all, word, verb, lexed, read⟩ :=
    exists_of_parseLine (parseLine_of_lineAnnotation? found)
  obtain ⟨token, listed, bare, spelled⟩ := LineTokens.exists_path_of_read read
  rw [LineTokens.ofTokens_eq] at listed
  rw [← spelled]
  exact text_ne_empty_of_tokens lexed token (List.mem_of_mem_filter listed) bare

/-! ## The combined operation -/

namespace OperationDraft

/-- The operation that annotations describe together, each kind combined in its own way. -/
def gathered (description : String) (deprecated : Bool) (notes : List Annotation) :
    OperationDraft :=
  let routes := notes.filterMap Annotation.route?
  { method := routes.getLast?.map RouteLine.method
    path := (routes.getLast?.map RouteLine.path).getD ""
    operationId := (routes.getLast?.map RouteLine.operationId).getD ""
    summary := (routes.getLast?.map RouteLine.summary).getD ""
    description
    tags := (routes.getLast?.map RouteLine.tags).getD []
    deprecated := deprecated || routes.any RouteLine.deprecated
    parameters := (notes.filterMap Annotation.parameter?).map Parameter.ofLine
    requestBody := (notes.filterMap Annotation.body?).getLast?.map RequestBody.ofLine
    responses := Keyed.putAll [] ((notes.filterMap Annotation.response?).map fun line =>
      (line.status, Response.ofLine line))
    security := (notes.flatMap Annotation.schemes).map fun scheme => [(scheme, [])] }

section Notes

variable (description : String) (deprecated : Bool) (notes : List Annotation)

theorem gathered_concat (note : Annotation) :
    gathered description deprecated (notes ++ [note]) =
      (gathered description deprecated notes).apply note := by
  cases note <;>
    simp only [gathered, apply, List.filterMap_append, List.filterMap_cons, List.filterMap_nil,
      List.flatMap_append, List.flatMap_singleton, Annotation.route?, Annotation.parameter?,
      Annotation.body?, Annotation.response?, Annotation.schemes, List.append_nil, List.map_append,
      List.map_cons, List.map_nil, Keyed.putAll_concat, List.getLast?_concat, Option.map_some,
      Option.getD_some, List.any_append, List.any_cons, List.any_nil, Bool.or_false, Bool.or_assoc]

/-- A run over the annotations of a routine combines them. -/
theorem foldl_apply_eq_gathered :
    notes.foldl apply { description, deprecated } = gathered description deprecated notes := by
  induction notes using List.reverseRecOn with
  | nil => simp [gathered, Keyed.putAll]
  | append_singleton notes note induction =>
      rw [List.foldl_append, induction, List.foldl_cons, List.foldl_nil, gathered_concat]

variable {notes}

/-- The last route gives the method and all that is written with it. -/
theorem gathered_of_route {route : RouteLine}
    (last : (notes.filterMap Annotation.route?).getLast? = some route) :
    gathered description deprecated notes =
      { gathered description deprecated notes with
        method := some route.method
        path := route.path
        operationId := route.operationId
        summary := route.summary
        tags := route.tags } := by
  simp [gathered, last]

end Notes

/-! ## Lines without effect -/

theorem apply_of_isIdle {note : Annotation} (idle : note.isIdle = true) (draft : OperationDraft) :
    draft.apply note = draft := by
  cases note with
  | route line => cases idle
  | parameter line => cases idle
  | body line => cases idle
  | response line => cases idle
  | secure schemes => cases idle
  | _ => rfl

/-- A route is combined in the same way before and after any other annotation. -/
theorem apply_route_apply {note : Annotation} (other : note.route? = none) (line : RouteLine)
    (draft : OperationDraft) :
    (draft.apply (.route line)).apply note = (draft.apply note).apply (.route line) := by
  cases note with
  | route line => cases other
  | _ => rfl

theorem foldl_apply_route {notes : List Annotation} (others : ∀ note ∈ notes, note.route? = none)
    (line : RouteLine) (draft : OperationDraft) :
    notes.foldl apply (draft.apply (.route line)) =
      (notes.foldl apply draft).apply (.route line) := by
  induction notes generalizing draft with
  | nil => rfl
  | cons note notes induction =>
      rw [List.foldl_cons, List.foldl_cons, apply_route_apply (others note List.mem_cons_self),
        induction fun later member => others later (List.mem_cons_of_mem note member)]

end OperationDraft

/-- A change to the lines of a doc comment that no operation shows: a marked line is left out that
is malformed, unknown, or about something else, or a route is moved over lines that are none. -/
inductive Reworded : List (List Char) → List (List Char) → Prop where
  | idle (before after : List (List Char)) {line : List Char} (marked : isMarked line = true)
      (idle : ∀ note, lineAnnotation? line = some note → note.isIdle = true) :
      Reworded (before ++ line :: after) (before ++ after)
  | moved (before between after : List (List Char)) {line : List Char} {route : RouteLine}
      (found : lineAnnotation? line = some (.route route))
      (others : ∀ other ∈ between, ∀ note, lineAnnotation? other = some note →
        note.route? = none) :
      Reworded (before ++ line :: (between ++ after)) (before ++ (between ++ line :: after))

namespace Reworded

variable {first second : List (List Char)}

theorem filter_unmarked (reworded : Reworded first second) :
    (first.filter fun line => !isMarked line) = second.filter fun line => !isMarked line := by
  cases reworded with
  | idle before after marked => simp [marked]
  | moved before between after found => simp [isMarked_of_lineAnnotation? found]

theorem foldl_apply (reworded : Reworded first second) (draft : OperationDraft) :
    (first.filterMap lineAnnotation?).foldl OperationDraft.apply draft =
      (second.filterMap lineAnnotation?).foldl OperationDraft.apply draft := by
  cases reworded with
  | idle before after marked idle =>
      rename_i line
      cases found : lineAnnotation? line with
      | none => simp [found]
      | some note => simp [found, OperationDraft.apply_of_isIdle (idle note found)]
  | moved before between after found others =>
      have passed : ∀ note ∈ between.filterMap lineAnnotation?, note.route? = none := by
        intro note member
        obtain ⟨other, listed, read⟩ := List.mem_filterMap.1 member
        exact others other listed note read
      simp [found, OperationDraft.foldl_apply_route passed]

/-- What no single change alters is the same after any number of them, in either direction. -/
theorem eq_of_eqvGen {α : Type} {shown : List (List Char) → α}
    (kept : ∀ {first second}, Reworded first second → shown first = shown second)
    (reworded : Relation.EqvGen Reworded first second) : shown first = shown second := by
  induction reworded with
  | rel _ _ step => exact kept step
  | refl _ => rfl
  | symm _ _ _ induction => exact induction.symm
  | trans _ _ _ _ _ left right => exact left.trans right

end Reworded

/-! ## Routines -/

namespace Routine

/-- The operation of a routine, when it is routed, is the one that its annotations describe
together. -/
theorem routedOperation?_eq (routine : Routine) :
    routine.routedOperation? =
      (some (.gathered (prose routine.doc) routine.deprecated (annotations routine.doc))).filter
        OperationDraft.isRouted := by
  rw [routedOperation?, OperationDraft.ofRoutine?]
  cases found : annotations routine.doc with
  | nil => simp [OperationDraft.gathered, OperationDraft.isRouted, Option.filter]
  | cons note notes =>
      have marked : '!' ∈ routine.doc.toList := mem_of_annotations_ne_nil (by simp [found])
      rw [if_pos (by simpa using marked), ← OperationDraft.foldl_apply_eq_gathered]

theorem routedOperation?_of_routeless (routine : Routine)
    (routeless : (annotations routine.doc).filterMap Annotation.route? = []) :
    routine.routedOperation? = none := by
  simp [routedOperation?_eq, OperationDraft.gathered, OperationDraft.isRouted, routeless]

theorem routedOperation?_of_route {routine : Routine} {route : RouteLine}
    (last : ((annotations routine.doc).filterMap Annotation.route?).getLast? = some route) :
    routine.routedOperation? =
      some (.gathered (prose routine.doc) routine.deprecated (annotations routine.doc)) := by
  have listed : .route route ∈ annotations routine.doc := by
    obtain ⟨note, member, found⟩ := List.mem_filterMap.1 (List.mem_of_getLast? last)
    cases note <;> cases found
    exact member
  have path := path_ne_empty_of_mem_annotations listed
  have routed : (OperationDraft.gathered (prose routine.doc) routine.deprecated
      (annotations routine.doc)).isRouted = true := by
    simpa [OperationDraft.gathered, OperationDraft.isRouted, last] using path
  rw [routedOperation?_eq, Option.filter_some_pos routed]

theorem routedOperation?_of_reworded {routine other : Routine}
    (same : other.deprecated = routine.deprecated)
    (reworded : Relation.EqvGen Reworded (lines routine.doc.toList) (lines other.doc.toList)) :
    other.routedOperation? = routine.routedOperation? := by
  have described : prose routine.doc = prose other.doc := by
    rw [prose, prose, Reworded.eq_of_eqvGen Reworded.filter_unmarked reworded]
  have combined (draft : OperationDraft) :=
    Reworded.eq_of_eqvGen (fun step => step.foldl_apply draft) reworded
  rw [routedOperation?_eq, routedOperation?_eq, same, ← described,
    ← OperationDraft.foldl_apply_eq_gathered, ← OperationDraft.foldl_apply_eq_gathered, annotations,
    annotations, combined]

end Routine

namespace Spec

/-- A routine without a route adds nothing. One with a route adds one operation, which has the last
route and the last body, all parameters and security schemes, the last response of each status, and
the prose as its description; the routine itself or any of the routes makes it deprecated. The place
of the route and lines about something else change nothing. -/
theorem operation_of_routine (spec : Spec) (routine : Routine) :
    let notes := annotations routine.doc
    let routes := notes.filterMap Annotation.route?
    let responses := notes.filterMap Annotation.response?
    (routes = [] → spec.addRoutine routine = spec) ∧
      (∀ route, routes.getLast? = some route → ∃ draft : OperationDraft,
        spec.addRoutine routine = { spec with operations := spec.operations ++ [draft] } ∧
        draft.method = some route.method ∧ draft.path = route.path ∧
        draft.operationId = route.operationId ∧ draft.summary = route.summary ∧
        draft.tags = route.tags ∧
        (draft.deprecated = true ↔
          routine.deprecated = true ∨ ∃ line ∈ routes, line.deprecated = true) ∧
        draft.parameters = (notes.filterMap Annotation.parameter?).map Parameter.ofLine ∧
        draft.requestBody = (notes.filterMap Annotation.body?).getLast?.map RequestBody.ofLine ∧
        Keyed.keys draft.responses = (responses.map ResponseLine.status).eraseDups ∧
        (∀ status, Keyed.at? draft.responses status =
          (responses.filter fun line => line.status = status).getLast?.map Response.ofLine) ∧
        draft.security = (notes.flatMap Annotation.schemes).map (fun scheme => [(scheme, [])]) ∧
        draft.description = prose routine.doc) ∧
      ∀ other : Routine, other.deprecated = routine.deprecated →
        Relation.EqvGen Reworded (lines routine.doc.toList) (lines other.doc.toList) →
        spec.addRoutine other = spec.addRoutine routine := by
  intro notes routes responses
  refine ⟨fun none => ?_, fun route last => ?_, fun other same reworded => ?_⟩
  · rw [addRoutine_eq, routine.routedOperation?_of_routeless none]
    simp
  · refine ⟨.gathered (prose routine.doc) routine.deprecated notes, ?_, ?_⟩
    · rw [addRoutine_eq, Routine.routedOperation?_of_route last]
      rfl
    · rw [OperationDraft.gathered_of_route _ _ last]
      refine ⟨rfl, rfl, rfl, rfl, rfl, ?_, rfl, rfl, ?_, fun status => ?_, rfl, rfl⟩
      · rw [OperationDraft.gathered, Bool.or_eq_true, List.any_eq_true]
      · rw [OperationDraft.gathered, Keyed.keys_putAll, Keyed.keys, List.map_map]
        rfl
      · rw [OperationDraft.gathered, Keyed.at?_putAll, List.filter_map, List.getLast?_map,
          Option.map_map]
        rfl
  · rw [addRoutine_eq, addRoutine_eq, Routine.routedOperation?_of_reworded same reworded]

/-! ## A route in another place -/

/-- A routine whose route stands after its response and before a line about a model. -/
def listRoutine : Routine := ⟨"list", "!ok 2Xx Pet\nAll pets.\n!get /pets\n!model", false⟩

/-- The routine with its route in front, and without the other line. -/
def tidyRoutine : Routine := ⟨"list", "!get /pets\n!ok 2Xx Pet\nAll pets.", false⟩

/-- Both routines add the same operation. -/
theorem operation_of_listRoutine :
    (∃ draft, ({} : Spec).addRoutine listRoutine = { operations := [draft] } ∧
      draft.method = some .get ∧ draft.path = "/pets" ∧ draft.deprecated = false ∧
      Keyed.keys draft.responses = ["2Xx"] ∧ draft.description = "All pets.") ∧
      ({} : Spec).addRoutine tidyRoutine = ({} : Spec).addRoutine listRoutine := by
  have response : lineAnnotation? "!ok 2Xx Pet".toList =
      some (.response ⟨.success, "2Xx", "Pet", ""⟩) := by with_unfolding_all rfl
  have unmarked : lineAnnotation? "All pets.".toList = none := rfl
  have model : lineAnnotation? "!model".toList = some (.model "") := by with_unfolding_all rfl
  have cut : lines listRoutine.doc.toList =
      ["!ok 2Xx Pet".toList, "All pets.".toList, "!get /pets".toList, "!model".toList] := by decide
  have tidied : lines tidyRoutine.doc.toList =
      ["!get /pets".toList, "!ok 2Xx Pet".toList, "All pets.".toList] := by decide
  have notes : annotations listRoutine.doc =
      [.response ⟨.success, "2Xx", "Pet", ""⟩, .route ⟨.get, "/pets", "", "", [], false⟩,
        .model ""] := by
    rw [annotations, cut]
    simp only [List.filterMap_cons, List.filterMap_nil, response, unmarked,
      lineAnnotation?_get_pets, model]
  have described : prose listRoutine.doc = "All pets." := by decide
  obtain ⟨-, routed, same⟩ := operation_of_routine {} listRoutine
  rw [notes, described] at routed
  obtain ⟨draft, added, method, path, -, -, -, deprecated, -, -, keys, -, -, description⟩ :=
    routed _ rfl
  refine ⟨⟨draft, added, method, path, ?_, keys, description⟩, same tidyRoutine rfl ?_⟩
  · simpa [listRoutine, Annotation.route?] using deprecated
  · rw [cut, tidied]
    have marked : isMarked "!model".toList = true := by decide
    refine .trans _ _ _
      (.rel _ _
        (.idle ["!ok 2Xx Pet".toList, "All pets.".toList, "!get /pets".toList] [] marked ?_))
      (.symm _ _ (.rel _ _ (.moved [] ["!ok 2Xx Pet".toList, "All pets.".toList] []
        lineAnnotation?_get_pets ?_)))
    · intro note found
      obtain rfl := Option.some.inj (model.symm.trans found)
      rfl
    · intro other listed note found
      simp only [List.mem_cons, List.not_mem_nil, or_false] at listed
      rcases listed with rfl | rfl
      · obtain rfl := Option.some.inj (response.symm.trans found)
        rfl
      · cases unmarked.symm.trans found

end Spec

end DocApi
