import DocApi.Proofs.Annotation.Tokens
import DocApi.Proofs.Annotation.Verbs
import DocApi.Proofs.Source.DocText
import Mathlib.Data.Setoid.Basic

/-!
# What becomes of a line

A line with a known verb ends in one of three ways: its tokens cannot be told apart, something that
the verb requires is missing, or an annotation of that verb is read. All other lines are passed
over. Blanks around the line and after the verb make no difference, nor does the case of the verb.
In a text every line is read by itself.
-/

namespace DocApi

/-! ## Tokens that cannot be told apart -/

/-- Whether an error is a quotation mark, an angle bracket or a parenthesis without its partner. -/
def AnnotationError.IsLexical : AnnotationError → Prop
  | .unterminatedQuote => True
  | .unterminatedDelimiter opening => opening = '<' ∨ opening = '('
  | .missingToken _ _ => False

theorem isLexical_of_lexToken {c : Char} {text : List Char} {error : AnnotationError}
    (failed : lexToken c text = .error error) : error.IsLexical := by
  unfold lexToken lexQuoted lexDelimited lexWord at failed
  split at failed
  · split at failed <;> cases failed
    trivial
  split at failed
  · split at failed <;> cases failed
    exact Or.inl rfl
  split at failed
  · split at failed <;> cases failed
    exact Or.inr rfl
  · split at failed
    · split at failed <;> cases failed
      trivial
    · cases failed

theorem isLexical_of_tokens {text : List Char} {error : AnnotationError}
    (failed : tokens text = .error error) : error.IsLexical := by
  fun_induction tokens text with
  | case1 => cases failed
  | case2 _ _ _ _ _ lexed =>
      cases failed
      exact isLexical_of_lexToken lexed
  | case3 _ _ _ _ _ _ _ _ later induction =>
      cases failed
      exact induction later
  | case4 => cases failed

/-! ## Spellings of a line -/

/-- What can be changed in a line without another outcome. -/
inductive Respelled : List Char → List Char → Prop
  /-- Blanks around the line. -/
  | around {before after : List Char} (line : List Char)
      (blank : ∀ c ∈ before ++ after, isBlank c = true) :
      Respelled line (before ++ line ++ after)
  /-- The number and kind of the blanks between the verb and what follows it. -/
  | gap {verb gap other : List Char} (solid : ∀ c ∈ verb, isBlank c = false)
      (blank : ∀ c ∈ gap ++ other, isBlank c = true) (apart : gap ≠ [] ∧ other ≠ [])
      (rest : List Char) :
      Respelled ('!' :: (verb ++ (gap ++ rest))) ('!' :: (verb ++ (other ++ rest)))
  /-- The case of the letters of the verb. -/
  | verb {verb other : List Char} (solid : ∀ c ∈ verb ++ other, isBlank c = false)
      (same : asciiLower (String.ofList verb) = asciiLower (String.ofList other))
      {rest : List Char} (blank : StartsBlank rest) :
      Respelled ('!' :: (verb ++ rest)) ('!' :: (other ++ rest))

theorem startsBlank_append {blanks : List Char} (blank : ∀ c ∈ blanks, isBlank c = true)
    (nonempty : blanks ≠ []) (rest : List Char) : StartsBlank (blanks ++ rest) := by
  obtain ⟨c, more, rfl⟩ := List.exists_cons_of_ne_nil nonempty
  exact startsBlank_cons (blank c List.mem_cons_self) (more ++ rest)

theorem Respelled.parseLine_eq {line other : List Char} (respelled : Respelled line other) :
    parseLine other = parseLine line := by
  cases respelled with
  | @around before after line blank =>
      rw [List.forall_mem_append] at blank
      have trimmed : trim (before ++ line ++ after) = trim line := by
        rw [trim_append _ blank.2, trim_blanks_append blank.1]
      have verbs : splitVerb (before ++ line ++ after) = splitVerb line := by
        rw [splitVerb, splitVerb, trimmed]
      rw [parseLine, parseLine, verbs]
  | @gap verb gap other solid blank apart rest =>
      rw [List.forall_mem_append] at blank
      have verbs : splitVerb ('!' :: (verb ++ (other ++ rest))) =
          splitVerb ('!' :: (verb ++ (gap ++ rest))) := by
        rw [splitVerb_cons solid (startsBlank_append blank.2 apart.2 rest),
          splitVerb_cons solid (startsBlank_append blank.1 apart.1 rest),
          trim_blanks_append blank.1, trim_blanks_append blank.2]
      rw [parseLine, parseLine, verbs]
  | @verb verb other solid same rest blank =>
      rw [List.forall_mem_append] at solid
      have lower : verb.map Char.toLower = other.map Char.toLower := by
        simpa [asciiLower, String.ofList_inj] using same
      have letters : verb.head?.any Char.isAlpha = other.head?.any Char.isAlpha := by
        have heads := congrArg (fun word => word.head?.any Char.isAlpha) lower
        simpa [List.head?_map, Option.any_map, Function.comp_def] using heads
      rw [parseLine, parseLine, splitVerb_cons solid.1 blank, splitVerb_cons solid.2 blank, letters]
      cases other.head?.any Char.isAlpha with
      | false => rfl
      | true => simp only [if_true, same]

/-! ## The outcome -/

section Known

variable {line verb rest : List Char} (cut : splitVerb line = some (verb, rest)) {kind : Verb}
  (known : Verb.ofWord? (asciiLower (String.ofList verb)) = some kind)
include cut known

theorem parseLine_of_error {error : AnnotationError} (failed : tokens rest = .error error) :
    parseLine line = .error error := by
  rw [parseLine_eq, cut]
  simp only [known, failed]
  rfl

theorem parseLine_of_ok {found : List Token} (lexed : tokens rest = .ok found) :
    parseLine line = do
      return some (← (LineTokens.ofTokens found).read (asciiLower (String.ofList verb)) kind) := by
  rw [parseLine_eq, cut]
  simp only [known, lexed]
  rfl

/-- Once the tokens are told apart, an annotation is read or something required is missing. -/
theorem parseLine_answers {found : List Token} (lexed : tokens rest = .ok found) :
    Answers (asciiLower (String.ofList verb)) kind.required
      (fun read => ∃ note, read = some note ∧ note.verb = kind) (parseLine line) := by
  rw [parseLine_of_ok cut known lexed]
  exact (LineTokens.answers_read _ _ kind).bind fun note own => .found ⟨note, rfl, own⟩

theorem parseLine_ne_ok_none : parseLine line ≠ .ok none := by
  intro none
  cases lexed : tokens rest with
  | error error => cases (parseLine_of_error cut known lexed).symm.trans none
  | ok found =>
      have answers := parseLine_answers cut known lexed
      rw [none] at answers
      obtain ⟨note, nothing, -⟩ | _ := answers
      cases nothing

/-- A line fails as its tokens do, and in no other way with such an error. -/
theorem tokens_eq_error_iff (error : AnnotationError) :
    tokens rest = .error error ↔ error.IsLexical ∧ parseLine line = .error error := by
  refine ⟨fun failed => ⟨isLexical_of_tokens failed, parseLine_of_error cut known failed⟩, ?_⟩
  rintro ⟨lexical, fails⟩
  cases lexed : tokens rest with
  | error other =>
      cases (parseLine_of_error cut known lexed).symm.trans fails
      rfl
  | ok found =>
      have answers := parseLine_answers cut known lexed
      rw [fails] at answers
      cases answers
      exact lexical.elim

theorem parseLine_ne_missing (nothing : kind.required = []) (other what : String) :
    parseLine line ≠ .error (.missingToken other what) := by
  intro fails
  cases lexed : tokens rest with
  | error error =>
      rw [parseLine_of_error cut known lexed] at fails
      cases fails
      exact (isLexical_of_tokens lexed).elim
  | ok found =>
      have answers := parseLine_answers cut known lexed
      rw [fails, nothing] at answers
      cases answers with
      | missing member => cases member

end Known

theorem parseLine_eq_ok_none_iff (line : List Char) :
    parseLine line = .ok none ↔ splitVerb line = none ∨ ∃ verb rest,
      splitVerb line = some (verb, rest) ∧
        Verb.isKnown (asciiLower (String.ofList verb)) = false := by
  constructor
  · intro none
    rcases cut : splitVerb line with _ | ⟨verb, rest⟩
    · exact Or.inl rfl
    · refine Or.inr ⟨verb, rest, rfl, ?_⟩
      rw [Verb.isKnown_asciiLower, Option.isSome_eq_false_iff, Option.isNone_iff_eq_none]
      exact Option.eq_none_iff_forall_ne_some.2 fun kind known =>
        parseLine_ne_ok_none cut known none
  · rintro (cut | ⟨verb, rest, cut, unknown⟩)
    · rw [parseLine, cut]
    · rw [parseLine, cut]
      simp [unknown]

/-- The verbs of responses and models can do without anything. -/
theorem Verb.required_eq_nil {word : String} {kind : Verb} (known : ofWord? word = some kind)
    (member : word ∈ ["ok", "error", "model"]) : kind.required = [] := by
  simp only [List.mem_cons, List.not_mem_nil, or_false] at member
  obtain rfl | rfl | rfl := member <;> cases known <;> rfl

/-- A line is passed over exactly if it has no known verb. A line with a known verb fails exactly as
the reading of its tokens does; otherwise it lacks something that the verb requires, or it gives an
annotation of this verb. Blanks and the case of the verb do not matter. -/
theorem parseLine_outcome (line : List Char) :
    (parseLine line = .ok none ↔ splitVerb line = none ∨ ∃ verb rest,
        splitVerb line = some (verb, rest) ∧
          Verb.isKnown (asciiLower (String.ofList verb)) = false) ∧
      (∀ verb rest word, splitVerb line = some (verb, rest) →
        asciiLower (String.ofList verb) = word → Verb.isKnown word = true →
        ∃ kind, Verb.ofWord? word = some kind ∧
          (∀ error, tokens rest = .error error ↔ error.IsLexical ∧ parseLine line = .error error) ∧
          (∀ found, tokens rest = .ok found →
            (∃ what ∈ kind.required, parseLine line = .error (.missingToken word what)) ∨
              ∃ note, parseLine line = .ok (some note) ∧ note.verb = kind) ∧
          (word ∈ ["ok", "error", "model"] →
            ∀ other what, parseLine line ≠ .error (.missingToken other what))) ∧
      ∀ other, Relation.EqvGen Respelled line other → parseLine other = parseLine line := by
  refine ⟨parseLine_eq_ok_none_iff line, ?_, ?_⟩
  · rintro verb rest _ cut rfl known
    rw [Verb.isKnown_asciiLower, Option.isSome_iff_exists] at known
    obtain ⟨kind, known⟩ := known
    refine ⟨kind, known, tokens_eq_error_iff cut known, fun found lexed => ?_, fun member =>
      parseLine_ne_missing cut known (Verb.required_eq_nil known member)⟩
    cases result : parseLine line with
    | ok read =>
        have answers := parseLine_answers cut known lexed
        rw [result] at answers
        obtain ⟨note, rfl, own⟩ | _ := answers
        exact Or.inr ⟨note, rfl, own⟩
    | error error =>
        have answers := parseLine_answers cut known lexed
        rw [result] at answers
        cases answers with
        | missing member => exact Or.inl ⟨_, member, rfl⟩
  · intro other respelled
    have same := respelled.mono fun _ _ step => step.parseLine_eq.symm
    exact ((Setoid.ker parseLine).iseqv.eqvGen_iff.1 same).symm

/-- A line with an open quotation mark, and the same line with other blanks and another case. -/
theorem parseLine_outcome_open :
    (∃ kind, Verb.ofWord? "secure" = some kind ∧
        (∀ error, tokens "\"key".toList = .error error ↔
          error.IsLexical ∧ parseLine "!secure \"key".toList = .error error)) ∧
      parseLine "!secure \"key".toList = .error .unterminatedQuote ∧
      parseLine " !Secure\t\"key\r".toList = .error .unterminatedQuote := by
  obtain ⟨-, read, same⟩ := parseLine_outcome "!secure \"key".toList
  have cut : splitVerb "!secure \"key".toList = some ("secure".toList, "\"key".toList) := by
    decide
  obtain ⟨kind, known, fails, -⟩ := read _ _ "secure" cut (by decide) (by decide)
  have lexed : tokens "\"key".toList = .error .unterminatedQuote := by with_unfolding_all rfl
  have first := ((fails _).1 lexed).2
  have letters : ∀ c ∈ "secure".toList ++ "Secure".toList, isBlank c = false := by simp; decide
  have blanks : ∀ c ∈ [' '] ++ ['\t'], isBlank c = true := by simp; decide
  have outer : ∀ c ∈ [' '] ++ ['\r'], isBlank c = true := by simp; decide
  have gap : Respelled "!secure \"key".toList "!secure\t\"key".toList := by
    simpa using Respelled.gap (List.forall_mem_append.1 letters).1 blanks (by decide) "\"key".toList
  have case : Respelled "!secure\t\"key".toList "!Secure\t\"key".toList := by
    have apart := startsBlank_append (List.forall_mem_append.1 blanks).2 (by decide) "\"key".toList
    simpa using Respelled.verb letters (by decide) apart
  have around : Respelled "!Secure\t\"key".toList " !Secure\t\"key\r".toList := by
    simpa using Respelled.around "!Secure\t\"key".toList outer
  have respelled := (Relation.EqvGen.rel _ _ gap).trans _ _ _
    ((Relation.EqvGen.rel _ _ case).trans _ _ _ (.rel _ _ around))
  exact ⟨⟨kind, known, fails⟩, first, (same _ respelled).trans first⟩

/-! ## Lines of a text -/

/-- The annotations before a newline are those of the text that ends there, also when characters of
its first line are already pending. A carriage return at the seam is a blank of its line, and a line
without characters gives no annotation. -/
theorem filterMap_linesFrom_append (pending first second : List Char) :
    (linesFrom pending (first ++ '\n' :: second)).filterMap lineAnnotation? =
      (linesFrom pending first).filterMap lineAnnotation? ++
        (lines second).filterMap lineAnnotation? := by
  induction first generalizing pending with
  | nil =>
      have ended :
          lineAnnotation? (dropReturn pending).reverse = lineAnnotation? pending.reverse := by
        rw [← lineAnnotation?_endLine pending.reverse, endLine, List.reverse_reverse]
      rw [List.nil_append, linesFrom.eq_2, List.filterMap_cons, ended, linesFrom]
      cases pending with
      | nil => rfl
      | cons c pending =>
          rw [List.isEmpty_cons, if_neg Bool.false_ne_true, List.filterMap_cons]
          cases lineAnnotation? (c :: pending).reverse <;> rfl
  | cons c first induction =>
      by_cases newline : c = '\n'
      · subst newline
        rw [List.cons_append, linesFrom, linesFrom, List.filterMap_cons, List.filterMap_cons,
          induction]
        cases lineAnnotation? (dropReturn pending).reverse <;> rfl
      · rw [List.cons_append, linesFrom_cons newline, linesFrom_cons newline, induction]

/-- A newline parts the annotations of a text. -/
theorem annotations_newline (first second : String) :
    annotations (first ++ "\n" ++ second) = annotations first ++ annotations second := by
  have whole : (first ++ "\n" ++ second).toList = first.toList ++ '\n' :: second.toList := by
    simp
  rw [annotations, whole]
  exact filterMap_linesFrom_append [] first.toList second.toList

theorem annotations_ofList {line : List Char} (single : '\n' ∉ line) :
    annotations (String.ofList line) = (lineAnnotation? line).toList := by
  have joined : joinLines [line] = line := List.intercalate_singleton
  have alone : ∀ other ∈ [line], '\n' ∉ other := by simpa using single
  have read := annotations_joinLines alone
  rw [joined, List.filterMap_cons] at read
  rw [read]
  cases lineAnnotation? line <;> rfl

/-- A text is read line by line: whatever stands on either side of a newline, each side is read as
if it stood alone, and a line that is malformed loses its own annotation only. -/
theorem annotations_append_newline (first second : String) :
    annotations (first ++ "\n" ++ second) = annotations first ++ annotations second ∧
      ∀ line, '\n' ∉ line →
        annotations (first ++ "\n" ++ String.ofList line ++ "\n" ++ second) =
            annotations first ++ (lineAnnotation? line).toList ++ annotations second ∧
          ∀ error, parseLine line = .error error →
            annotations (first ++ "\n" ++ String.ofList line ++ "\n" ++ second) =
              annotations (first ++ "\n" ++ second) := by
  have among {line : List Char} (single : '\n' ∉ line) :
      annotations (first ++ "\n" ++ String.ofList line ++ "\n" ++ second) =
        annotations first ++ (lineAnnotation? line).toList ++ annotations second := by
    rw [annotations_newline, annotations_newline, annotations_ofList single]
  refine ⟨annotations_newline first second, fun line single => ⟨among single, ?_⟩⟩
  intro error malformed
  have silent : lineAnnotation? line = none := by rw [lineAnnotation?, malformed]
  rw [among single, silent, annotations_newline]
  simp

/-- An open quotation mark between two annotations does not reach beyond its line. -/
theorem annotations_append_newline_open :
    parseLine "!tag users \"User operations".toList = .error .unterminatedQuote ∧
      annotations ("!api 3.0.3\r" ++ "\n" ++ String.ofList "!tag users \"User operations".toList ++
          "\n" ++ "!tag pets \"Pets\"") =
        [.api "3.0.3", .tag ⟨"pets", "Pets"⟩] := by
  have malformed : parseLine "!tag users \"User operations".toList = .error .unterminatedQuote := by
    with_unfolding_all rfl
  have kept := annotations_append_newline "!api 3.0.3\r" "!tag pets \"Pets\""
  have version : annotations "!api 3.0.3\r" = [.api "3.0.3"] := by with_unfolding_all rfl
  have tag : annotations "!tag pets \"Pets\"" = [.tag ⟨"pets", "Pets"⟩] := by with_unfolding_all rfl
  refine ⟨malformed, ?_⟩
  rw [(kept.2 _ (by decide)).2 _ malformed, kept.1, version, tag]
  rfl

end DocApi
