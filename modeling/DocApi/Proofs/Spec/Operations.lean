import DocApi.Proofs.Annotation.Verbs
import DocApi.Proofs.Spec.Phases

/-!
# Operations of a walk

Whatever doc comments say, in whatever order, and however many of their lines are malformed: the
operations that a walk collects have a method and a path, parameters in a path are required,
responses are filed under statuses, bodies have one format, and a security requirement names one
scheme and no scopes.
-/

namespace DocApi

/-! ## Statuses -/

/-- A key under which a response can be filed: `default`, or a digit from 1 to 5 with two more
characters, each a digit or an `x`. Capitals count like small letters. -/
def IsResponseKey (key : String) : Prop :=
  asciiLower key = "default" ∨
    ∃ first second third, key = String.ofList [first, second, third] ∧
      ('1' ≤ first ∧ first ≤ '5') ∧ (second.isDigit = true ∨ second = 'x' ∨ second = 'X') ∧
      (third.isDigit = true ∨ third = 'x' ∨ third = 'X')

theorem isResponseKey_of_isStatus {word : String} (status : isStatus word = true) :
    IsResponseKey word := by
  rw [isStatus, Bool.or_eq_true] at status
  rcases status with named | digits
  · have lower : asciiLower word = asciiLower "default" := by simpa [eqIgnoringCase] using named
    exact Or.inl (lower.trans (by decide))
  · split at digits
    · rename_i first second third spelled
      refine Or.inr ⟨first, second, third, by rw [← spelled, String.ofList_toList], ?_⟩
      simpa [and_assoc, or_assoc] using digits
    · cases digits

namespace LineTokens

/-- The status that stands at the front of a line is one. -/
theorem isStatus_of_takeStatus {tokens : List Token} {status : String}
    (taken : (takeStatus tokens).1 = some status) : isStatus status = true := by
  unfold takeStatus at taken
  split at taken
  · split at taken
    · rename_i known
      obtain rfl := Option.some.inj taken
      exact known
    · cases taken
  · cases taken

/-- A response line gives its status, or its outcome does. -/
theorem isResponseKey_response (line : LineTokens) (outcome : Outcome) :
    IsResponseKey (line.response outcome).status := by
  have chosen : (line.response outcome).status =
      (takeStatus line.positional).1.getD (defaultStatus outcome) := rfl
  rw [chosen]
  apply isResponseKey_of_isStatus
  cases taken : (takeStatus line.positional).1 with
  | none => cases outcome <;> decide
  | some status => exact isStatus_of_takeStatus taken

/-- Only `!ok` and `!error` are read as responses. -/
theorem exists_of_read {line : LineTokens} {word : String} {verb : Verb}
    {response : ResponseLine} (read : line.read word verb = .ok (.response response)) :
    ∃ outcome, line.response outcome = response := by
  cases verb with
  | response outcome => exact ⟨outcome, by simpa [LineTokens.read] using read⟩
  | model => cases read
  | _ =>
      simp only [LineTokens.read, bind, Except.bind] at read
      split at read <;> cases read

end LineTokens

/-- A line that is an annotation is read by the tokens after its verb. -/
theorem exists_of_parseLine {line : List Char} {note : Annotation}
    (parsed : parseLine line = .ok (some note)) :
    ∃ rest found word verb, tokens rest = .ok found ∧
      (LineTokens.ofTokens found).read word verb = .ok note := by
  rw [parseLine_eq] at parsed
  split at parsed
  · cases parsed
  · split at parsed
    · cases parsed
    · rename_i verb _
      simp only [bind, Except.bind, pure, Except.pure] at parsed
      split at parsed
      · cases parsed
      · rename_i lexed
        split at parsed
        · cases parsed
        · rename_i read
          cases parsed
          exact ⟨_, _, _, verb, lexed, read⟩

theorem parseLine_of_lineAnnotation? {line : List Char} {note : Annotation}
    (found : lineAnnotation? line = some note) : parseLine line = .ok (some note) := by
  rw [lineAnnotation?] at found
  split at found
  · rename_i parsed
    rw [parsed, found]
  · cases found

/-- Every response of a doc comment has a status. -/
theorem isResponseKey_of_mem_annotations {doc : String} {line : ResponseLine}
    (member : .response line ∈ annotations doc) : IsResponseKey line.status := by
  obtain ⟨text, -, found⟩ := List.mem_filterMap.1 member
  obtain ⟨-, lexed, word, verb, -, read⟩ :=
    exists_of_parseLine (parseLine_of_lineAnnotation? found)
  obtain ⟨outcome, rfl⟩ := LineTokens.exists_of_read read
  exact (LineTokens.ofTokens lexed).isResponseKey_response outcome

/-! ## Drafts -/

/-- What holds of an operation, with or without a route. -/
structure OperationDraft.Sound (draft : OperationDraft) : Prop where
  /-- Parameters in the path are required. -/
  parameters : ∀ parameter ∈ draft.parameters,
    parameter.location = .path → parameter.required = true
  /-- Responses are filed under statuses. -/
  statuses : ∀ key ∈ Keyed.keys draft.responses, IsResponseKey key
  /-- The body has the one format. -/
  body : ∀ body, draft.requestBody = some body → Keyed.keys body.content = ["application/json"]
  /-- A response with content has the one format. -/
  contents : ∀ entry ∈ draft.responses, ∀ content, entry.2.content = some content →
    Keyed.keys content = ["application/json"]
  /-- A requirement names one scheme and no scopes. -/
  security : ∀ requirement ∈ draft.security, ∃ scheme, requirement = [(scheme, [])]

theorem keys_jsonContent (schema : Schema) :
    Keyed.keys (jsonContent schema) = ["application/json"] := rfl

theorem Response.keys_of_ofLine {line : ResponseLine} {content : Keyed MediaType}
    (found : (Response.ofLine line).content = some content) :
    Keyed.keys content = ["application/json"] := by
  simp only [Response.ofLine] at found
  split at found
  · obtain rfl := Option.some.inj found
    exact keys_jsonContent _
  · cases found

namespace OperationDraft

/-- One annotation keeps a draft sound, when it is no response without a status. -/
theorem Sound.apply {draft : OperationDraft} (sound : draft.Sound) {note : Annotation}
    (status : ∀ line, note = .response line → IsResponseKey line.status) :
    (draft.apply note).Sound := by
  cases note with
  | parameter line =>
      refine { sound with parameters := ?_ }
      intro parameter member located
      rcases List.mem_append.1 member with member | member
      · exact sound.parameters parameter member located
      · obtain rfl := List.mem_singleton.1 member
        have located : line.location = .path := located
        simp [Parameter.ofLine, located]
  | body line =>
      refine { sound with body := ?_ }
      intro body found
      obtain rfl := Option.some.inj found
      exact keys_jsonContent _
  | response line =>
      refine { sound with statuses := ?_, contents := ?_ }
      · intro key member
        obtain ⟨entry, listed, rfl⟩ := List.mem_map.1 member
        rcases Keyed.mem_put listed with kept | rfl
        · exact sound.statuses _ (Keyed.mem_keys_of_mem kept)
        · exact status line rfl
      · intro entry member content found
        rcases Keyed.mem_put member with kept | rfl
        · exact sound.contents entry kept content found
        · exact Response.keys_of_ofLine found
  | secure schemes =>
      refine { sound with security := ?_ }
      intro requirement member
      rcases List.mem_append.1 member with kept | added
      · exact sound.security requirement kept
      · obtain ⟨scheme, -, rfl⟩ := List.mem_map.1 added
        exact ⟨scheme, rfl⟩
  | _ => exact ⟨sound.parameters, sound.statuses, sound.body, sound.contents, sound.security⟩

/-- The draft of a routine is sound. -/
theorem sound_of_ofRoutine? {routine : Routine} {draft : OperationDraft}
    (found : ofRoutine? routine = some draft) : draft.Sound := by
  rw [eq_foldl_of_ofRoutine? found]
  have start : OperationDraft.Sound
      { description := prose routine.doc, deprecated := routine.deprecated } := by
    constructor <;> simp
  refine List.foldlRecOn _ _ start fun draft sound note member => sound.apply ?_
  rintro line rfl
  exact isResponseKey_of_mem_annotations member

end OperationDraft

/-! ## Runs -/

namespace Spec

/-- Every operation of a run has a method and a path that is not empty. Its parameters in the path
are required, its responses are filed under statuses, its body and contents have the one format, and
its security requirements name one scheme each, without scopes. -/
theorem operations_of_walk {files : List Declarations} {draft : OperationDraft}
    (member : draft ∈ (files.foldl walk {}).operations) :
    (∃ method, draft.method = some method) ∧ draft.path ≠ "" ∧
      (∀ parameter ∈ draft.parameters, parameter.location = .path → parameter.required = true) ∧
      (∀ key ∈ Keyed.keys draft.responses, IsResponseKey key) ∧
      (∀ body, draft.requestBody = some body →
        Keyed.keys body.content = ["application/json"]) ∧
      (∀ entry ∈ draft.responses, ∀ content, entry.2.content = some content →
        Keyed.keys content = ["application/json"]) ∧
      ∀ requirement ∈ draft.security, ∃ scheme, requirement = [(scheme, [])] := by
  obtain ⟨routine, found, routed⟩ := exists_routine_of_mem_operations member
  have sound := OperationDraft.sound_of_ofRoutine? found
  rw [OperationDraft.isRouted, Bool.and_eq_true, Option.isSome_iff_exists, bne_iff_ne] at routed
  exact ⟨routed.1, routed.2, sound.parameters, sound.statuses, sound.body, sound.contents,
    sound.security⟩

/-! ## An operation of pets -/

/-- A doc comment with a route, a parameter in its path, a response, a scheme and a malformed
line. -/
def petsDoc : String := "!get /pets\n!path id:int\n!ok 2Xx Pet\n!secure key\n!ok \"open"

/-- A file whose one routine has the doc comment. -/
def petsRoutine : Declarations := { routines := [⟨"show", petsDoc, false⟩] }

theorem lineAnnotation?_get_pets :
    lineAnnotation? "!get /pets".toList = some (.route ⟨.get, "/pets", "", "", [], false⟩) := by
  have cut : splitVerb "!get /pets".toList = some ("get".toList, "/pets".toList) := by decide
  have lexed : tokens "/pets".toList = .ok [.word "/pets"] := by with_unfolding_all rfl
  have word : asciiLower (String.ofList "get".toList) = "get" := by decide
  have verb : Verb.ofWord? "get" = some (.route .get) := by decide
  have unlike : eqIgnoringCase "/pets" "deprecated" = false := by decide
  have read : (LineTokens.ofTokens [.word "/pets"]).read "get" (.route .get) =
      .ok (.route ⟨.get, "/pets", "", "", [], false⟩) := by
    simp [LineTokens.ofTokens, LineTokens.read, LineTokens.route, takeSwitch, takeFirst, isSwitch,
      unlike, LineTokens.requireBare, Token.isBare]
    rfl
  simp only [lineAnnotation?, parseLine_eq, cut, lexed, word, verb]
  simp only [bind, Except.bind, pure, Except.pure, read]

theorem annotations_petsDoc :
    annotations petsDoc =
      [.route ⟨.get, "/pets", "", "", [], false⟩,
        .parameter ⟨"id", .path, "int", "", false, none, none, none⟩,
        .response ⟨.success, "2Xx", "Pet", ""⟩, .secure ["key"]] := by
  have cut : lines petsDoc.toList = ["!get /pets".toList, "!path id:int".toList,
      "!ok 2Xx Pet".toList, "!secure key".toList, "!ok \"open".toList] := by decide
  have parameter : lineAnnotation? "!path id:int".toList =
      some (.parameter ⟨"id", .path, "int", "", false, none, none, none⟩) := by
    with_unfolding_all rfl
  have response : lineAnnotation? "!ok 2Xx Pet".toList =
      some (.response ⟨.success, "2Xx", "Pet", ""⟩) := by with_unfolding_all rfl
  have secure : lineAnnotation? "!secure key".toList = some (.secure ["key"]) := by
    with_unfolding_all rfl
  have malformed : lineAnnotation? "!ok \"open".toList = none := by with_unfolding_all rfl
  rw [annotations, cut]
  simp only [List.filterMap_cons, List.filterMap_nil, lineAnnotation?_get_pets, parameter, response,
    secure, malformed]

/-- The routine adds one operation, and what holds of all operations holds of it. -/
theorem operations_of_petsRoutine :
    ∃ draft ∈ ([petsRoutine].foldl walk {}).operations,
      Keyed.keys draft.responses = ["2Xx"] ∧ draft.security = [[("key", [])]] ∧
      (∃ parameter ∈ draft.parameters, parameter.location = .path ∧ parameter.required = true) ∧
      (∃ method, draft.method = some method) ∧ draft.path ≠ "" ∧ IsResponseKey "2Xx" := by
  have marked : '!' ∈ petsDoc.toList := by decide
  have added : petsRoutine.operations =
      [(annotations petsDoc).foldl OperationDraft.apply { description := prose petsDoc }] := by
    simp [Declarations.operations, petsRoutine, Routine.routedOperation?, OperationDraft.ofRoutine?,
      marked, annotations_petsDoc, OperationDraft.apply, OperationDraft.isRouted, Option.filter]
  have member : (annotations petsDoc).foldl OperationDraft.apply { description := prose petsDoc } ∈
      ([petsRoutine].foldl walk {}).operations := by
    rw [List.foldl_cons, List.foldl_nil, walk_eq]
    simp [withDeclared, added]
  obtain ⟨method, path, parameters, statuses, -⟩ := operations_of_walk member
  refine ⟨_, member, ?_⟩
  simp only [annotations_petsDoc, List.foldl_cons, List.foldl_nil, OperationDraft.apply] at *
  exact ⟨rfl, rfl, ⟨_, List.mem_cons_self, rfl, parameters _ List.mem_cons_self rfl⟩, method, path,
    statuses _ List.mem_cons_self⟩

end Spec

end DocApi
