import DocApi.Annotation.Line
import DocApi.Proofs.Annotation.Tokens
import DocApi.Proofs.Keyed

/-!
# Verbs

The verb of a line is its first word, after the mark and up to the first blank. A line is passed
over unless its verb is one of the known words. These are the words that name a verb, so that no
line of a known verb is passed over, and no other line is read. What is read has the verb of the
line, or else the line lacks something that its verb requires.
-/

namespace DocApi

/-! ## The word of a line -/

theorem StartsBlank.trimEnd {rest : List Char} (blank : StartsBlank rest) :
    StartsBlank (trimEnd rest) := by
  intro c first
  obtain ⟨more, whole⟩ := trimEnd_prefix rest
  refine blank c ?_
  rw [← whole, List.head?_append, Option.mem_def.1 first]
  rfl

/-- A word without blanks ends where blanks start. -/
theorem StartsBlank.span {word rest : List Char} (solid : ∀ c ∈ word, isBlank c = false)
    (blank : StartsBlank rest) :
    (word ++ rest).takeWhile (!isBlank ·) = word ∧
      (word ++ rest).dropWhile (!isBlank ·) = rest := by
  have goes : ∀ c ∈ word, (!isBlank c) = true := fun c member => by simp [solid c member]
  rw [List.takeWhile_append_of_pos goes, List.dropWhile_append_of_pos goes]
  cases rest with
  | nil => exact ⟨List.append_nil word, rfl⟩
  | cons c more => simp [blank c rfl]

/-- The verb ends at the first blank, and what follows it is trimmed. -/
theorem splitVerb_cons {verb : List Char} (solid : ∀ c ∈ verb, isBlank c = false) {rest : List Char}
    (blank : StartsBlank rest) :
    splitVerb ('!' :: (verb ++ rest)) =
      if verb.head?.any Char.isAlpha then some (verb, trim rest) else none := by
  have ends : EndsSolid ('!' :: verb) := by
    rcases List.eq_nil_or_concat verb with rfl | ⟨front, last, rfl⟩
    · exact ⟨[], '!', rfl, by decide⟩
    · exact ⟨'!' :: front, last, by simp, solid last (by simp)⟩
  have trimmed : trim ('!' :: (verb ++ rest)) = '!' :: (verb ++ trimEnd rest) := by
    rw [trim, trimStart_of_solid (by decide), ← List.cons_append,
      trimEnd_append_of_endsSolid ends, List.cons_append]
  obtain ⟨taken, left⟩ := StartsBlank.span solid blank.trimEnd
  rw [splitVerb, trimmed]
  cases verb with
  | nil =>
      cases kept : trimEnd rest with
      | nil => rfl
      | cons c more =>
          have letter : ¬ c.isAlpha = true := fun letter => by
            have solid : isBlank c = false :=
              solid_of_isAlphanum (by simp [Char.isAlphanum, letter])
            rw [blank.trimEnd c (by simp [kept])] at solid
            cases solid
          simp [letter]
  | cons c verb =>
      rw [List.cons_append] at taken left
      simp only [List.cons_append, taken, left, trimStart_trimEnd]
      rfl

/-! ## Known words -/

theorem asciiLower_asciiLower (text : String) : asciiLower (asciiLower text) = asciiLower text := by
  have twice : Char.toLower ∘ Char.toLower = Char.toLower := funext toLower_toLower
  rw [asciiLower, asciiLower, String.toList_ofList, List.map_map, twice]

theorem Keyed.isSome_at? {α : Type} (entries : Keyed α) (key : String) :
    (at? entries key).isSome = (keys entries).contains key := by
  rw [Bool.eq_iff_iff, ← Option.ne_none_iff_isSome, ne_eq, at?_eq_none_iff, not_not,
    List.contains_iff_mem]

/-- The words that are known are those that name a verb. -/
theorem Verb.isKnown_asciiLower (text : String) :
    isKnown (asciiLower text) = (ofWord? (asciiLower text)).isSome := by
  have keys : Keyed.keys table = words ++ Keyed.keys Method.table := rfl
  rw [isKnown, Method.ofWord?, asciiLower_asciiLower, ofWord?, Keyed.isSome_at?, Keyed.isSome_at?,
    keys, List.contains_append]

/-- A line is read when its word names a verb, and passed over otherwise. -/
theorem parseLine_eq (line : List Char) :
    parseLine line =
      match splitVerb line with
      | none => .ok none
      | some (verb, rest) =>
          match Verb.ofWord? (asciiLower (String.ofList verb)) with
          | none => .ok none
          | some kind => do
              let found ← tokens rest
              let note ← (LineTokens.ofTokens found).read (asciiLower (String.ofList verb)) kind
              return some note := by
  rw [parseLine]
  cases splitVerb line with
  | none => rfl
  | some parts =>
      simp only [Verb.isKnown_asciiLower]
      cases Verb.ofWord? (asciiLower (String.ofList parts.1)) <;> rfl

/-! ## Required tokens -/

/-- The verb that an annotation is written with. -/
def Annotation.verb : Annotation → Verb
  | .api _ => .api
  | .info _ => .info
  | .contact _ => .contact
  | .license _ => .license
  | .terms _ => .terms
  | .server _ => .server
  | .tag _ => .tag
  | .docs _ => .docs
  | .link _ => .link
  | .security _ => .security
  | .scope _ => .scope
  | .route line => .route line.method
  | .parameter line => .parameter line.location
  | .body _ => .body
  | .response line => .response line.outcome
  | .secure _ => .secure
  | .model _ => .model
  | .field _ => .field
  | .schema _ => .schema

/-- What the lines of a verb cannot do without. -/
def Verb.required : Verb → List String
  | .api => ["version"]
  | .info => ["title"]
  | .contact => ["name, email or URL"]
  | .license => ["license name"]
  | .terms => ["terms of service URL"]
  | .server => ["server URL"]
  | .tag => ["tag name"]
  | .docs => ["documentation URL"]
  | .link => ["link label", "link URL"]
  | .security => ["scheme name", "scheme kind"]
  | .scope => ["security scheme name", "scope name"]
  | .parameter _ => ["parameter name"]
  | .body => ["schema"]
  | .response _ | .model => []
  | .secure => ["security scheme name"]
  | .field => ["field name"]
  | .schema => ["schema name", "schema type"]
  | .route _ => ["path", "operation id"]

/-- A reading of a line of the verb `word` that gives what is wanted or lacks something
required. -/
inductive Answers {α : Type} (word : String) (required : List String) (wanted : α → Prop) :
    Except AnnotationError α → Prop
  | found {value : α} (own : wanted value) : Answers word required wanted (.ok value)
  | missing {what : String} (member : what ∈ required) :
      Answers word required wanted (.error (.missingToken word what))

namespace Answers

variable {α β : Type} {word what : String} {required : List String} {tokens : List Token}

theorem bind {first : α → Prop} {second : β → Prop} {result : Except AnnotationError α}
    {next : α → Except AnnotationError β} (answers : Answers word required first result)
    (later : ∀ value, first value → Answers word required second (next value)) :
    Answers word required second (result >>= next) := by
  cases answers with
  | found own => exact later _ own
  | missing member => exact missing member

theorem requireText (member : what ∈ required) :
    Answers word required (fun _ => True) (requireText word what tokens) := by
  cases tokens with
  | nil => exact missing member
  | cons token tokens => exact found trivial

theorem requireBare (member : what ∈ required) :
    Answers word required (fun _ => True) (LineTokens.requireBare word what tokens) := by
  cases tokens with
  | nil => exact missing member
  | cons token tokens =>
      rw [LineTokens.requireBare]
      split
      · exact found trivial
      · exact missing member

theorem nameAndType (member : what ∈ required) :
    Answers word required (fun _ => True) (LineTokens.nameAndType word what tokens) := by
  unfold LineTokens.nameAndType
  split
  · exact found trivial
  · exact found trivial
  · exact missing member

theorem license (line : LineTokens) :
    Answers word Verb.license.required (fun _ => True) (line.license word) :=
  (requireText List.mem_cons_self).bind fun _ _ => found trivial

theorem textAndRest (line : LineTokens) (member : what ∈ required) :
    Answers word required (fun _ => True) (line.textAndRest word what) :=
  (requireText member).bind fun _ _ => found trivial

theorem info (line : LineTokens) :
    Answers word Verb.info.required (fun _ => True) (line.info word) := by
  refine (requireText List.mem_cons_self).bind fun (title, rest) _ => ?_
  cases rest with
  | nil => exact found trivial
  | cons token after =>
      dsimp only
      split <;> exact found trivial

theorem contact (line : LineTokens) :
    Answers word Verb.contact.required (fun _ => True) (line.contact word) := by
  rw [LineTokens.contact]
  split
  · exact missing List.mem_cons_self
  · exact found trivial

theorem link (line : LineTokens) :
    Answers word Verb.link.required (fun _ => True) (line.link word) :=
  (requireText List.mem_cons_self).bind fun _ _ =>
    (requireText (by simp)).bind fun _ _ => found trivial

theorem security (line : LineTokens) :
    Answers word Verb.security.required (fun _ => True) (line.security word) :=
  (requireText List.mem_cons_self).bind fun _ _ =>
    (requireText (by simp)).bind fun _ _ => found trivial

theorem scope (line : LineTokens) :
    Answers word Verb.scope.required (fun _ => True) (line.scope word) :=
  (requireText List.mem_cons_self).bind fun _ _ =>
    (requireText (by simp)).bind fun _ _ => found trivial

theorem body (line : LineTokens) :
    Answers word Verb.body.required (fun _ => True) (line.body word) := by
  rw [LineTokens.body]
  obtain ⟨required, rest⟩ := takeSwitch "required" line.positional
  cases rest with
  | nil => exact missing List.mem_cons_self
  | cons token after =>
      dsimp only
      split
      · exact missing List.mem_cons_self
      · exact found trivial

theorem secure (line : LineTokens) :
    Answers word Verb.secure.required (fun _ => True) (line.secure word) := by
  rw [LineTokens.secure]
  split
  · exact missing List.mem_cons_self
  · exact found trivial

theorem field (line : LineTokens) :
    Answers word Verb.field.required (fun _ => True) (line.field word) :=
  (nameAndType List.mem_cons_self).bind fun _ _ => found trivial

theorem schema (line : LineTokens) :
    Answers word Verb.schema.required (fun _ => True) (line.schema word) := by
  refine (nameAndType List.mem_cons_self).bind fun (name, type, rest) _ => ?_
  cases type with
  | some type => exact found trivial
  | none => exact (requireText (by simp)).bind fun _ _ => found trivial

theorem parameter (line : LineTokens) (location : Location) :
    Answers word (Verb.parameter location).required (fun read => read.location = location)
      (line.parameter word location) :=
  (nameAndType List.mem_cons_self).bind fun _ _ => found rfl

theorem route (line : LineTokens) (method : Method) :
    Answers word (Verb.route method).required (fun read => read.method = method)
      (line.route word method) := by
  refine (requireBare List.mem_cons_self).bind fun (path, rest) _ => ?_
  dsimp only
  split
  · exact (requireBare (by simp)).bind fun _ _ => found rfl
  · exact found rfl

end Answers

/-- What is read from a line has the verb of the line, unless something required is missing. -/
theorem LineTokens.answers_read (line : LineTokens) (word : String) (verb : Verb) :
    Answers word verb.required (fun note => note.verb = verb) (line.read word verb) := by
  have only {what : String} : what ∈ [what] := List.mem_cons_self
  cases verb with
  | api => exact (Answers.requireText only).bind fun _ _ => .found rfl
  | info => exact (Answers.info line).bind fun _ _ => .found rfl
  | contact => exact (Answers.contact line).bind fun _ _ => .found rfl
  | license => exact (Answers.license line).bind fun _ _ => .found rfl
  | terms => exact (Answers.requireText only).bind fun _ _ => .found rfl
  | server => exact (Answers.textAndRest line only).bind fun _ _ => .found rfl
  | tag => exact (Answers.textAndRest line only).bind fun _ _ => .found rfl
  | docs => exact (Answers.textAndRest line only).bind fun _ _ => .found rfl
  | link => exact (Answers.link line).bind fun _ _ => .found rfl
  | security => exact (Answers.security line).bind fun _ _ => .found rfl
  | scope => exact (Answers.scope line).bind fun _ _ => .found rfl
  | parameter location =>
      exact (Answers.parameter line location).bind fun _ own => .found (congrArg Verb.parameter own)
  | body => exact (Answers.body line).bind fun _ _ => .found rfl
  | response outcome => exact .found rfl
  | secure => exact (Answers.secure line).bind fun _ _ => .found rfl
  | model => exact .found rfl
  | field => exact (Answers.field line).bind fun _ _ => .found rfl
  | schema => exact (Answers.schema line).bind fun _ _ => .found rfl
  | route method =>
      exact (Answers.route line method).bind fun _ own => .found (congrArg Verb.route own)

end DocApi
