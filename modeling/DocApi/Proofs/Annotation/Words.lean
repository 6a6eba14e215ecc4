import DocApi.Proofs.Annotation.Roles
import DocApi.Proofs.Annotation.Spelling

/-!
# Words between blanks

A text in which nothing can open a delimited token falls into its maximal runs of characters that
are no blanks, and each run is one token with the run as its text. So a description without quotes
is read as its words, whatever kinds of tokens they look like, as long as they are no tags and no
flags.
-/

namespace DocApi

/-! ## Maximal runs -/

/-- The maximal runs of characters that are no blanks, in order. -/
def solidRuns (text : List Char) : List (List Char) :=
  (piecesBy isBlank text).filter (!·.isEmpty)

/-- The maximal runs of a text, as texts. -/
def solidWords (text : String) : List String := (solidRuns text.toList).map String.ofList

theorem solidRuns_of_blank {c : Char} (blank : isBlank c = true) (text : List Char) :
    solidRuns (c :: text) = solidRuns text := by
  simp [solidRuns, piecesBy, blank]

/-- A run ends where the text does, or at a blank. -/
theorem solidRuns_append {run rest : List Char} (nonempty : run ≠ [])
    (solid : ∀ c ∈ run, isBlank c = false) (blank : StartsBlank rest) :
    solidRuns (run ++ rest) = run :: solidRuns rest := by
  cases rest with
  | nil => simp [solidRuns, piecesBy_of_free solid, piecesBy, nonempty]
  | cons c rest =>
      have stops : isBlank c = true := blank c rfl
      rw [solidRuns_of_blank stops]
      simp [solidRuns, piecesBy_append solid stops, nonempty]

/-- A text that starts with no blank starts with a run. -/
theorem exists_run {c : Char} (solid : isBlank c = false) (text : List Char) :
    ∃ run rest, c :: text = run ++ rest ∧ run ≠ [] ∧ (∀ d ∈ run, isBlank d = false) ∧
      StartsBlank rest := by
  refine ⟨(c :: text).takeWhile (!isBlank ·), (c :: text).dropWhile (!isBlank ·),
    List.takeWhile_append_dropWhile.symm, ?_, fun d member => ?_, fun d first => ?_⟩
  · simp [solid]
  · simpa using List.mem_takeWhile_imp member
  · have stops := List.head?_dropWhile_not (!isBlank ·) (c :: text)
    rw [first] at stops
    simpa using stops

/-! ## One token for each run -/

theorem Undelimited.of_append {left right : List Char} (plain : Undelimited (left ++ right)) :
    Undelimited left ∧ Undelimited right :=
  List.forall_mem_append.1 plain

/-- Where nothing is delimited, every run is classified by itself. -/
theorem tokens_eq_map_classify {text : List Char} (plain : Undelimited text) :
    tokens text = .ok ((solidRuns text).map classify) := by
  induction size : text.length using Nat.strong_induction_on generalizing text with
  | _ length induction =>
      cases text with
      | nil => exact tokens_nil
      | cons c text =>
          by_cases blank : isBlank c = true
          · have plain := List.forall_mem_of_forall_mem_cons plain
            rw [tokens_of_blank blank, solidRuns_of_blank blank]
            exact induction text.length (by simp [← size]) plain rfl
          · have first : isBlank c = false := by simpa using blank
            obtain ⟨run, rest, cut, nonempty, solid, apart⟩ := exists_run first text
            rw [cut] at plain size ⊢
            obtain ⟨plainRun, plainRest⟩ := plain.of_append
            have shorter : rest.length < length := by
              have := List.length_pos_of_ne_nil nonempty
              rw [← size, List.length_append]
              omega
            have word := (plainRun.wordText solid nonempty).lexesAs
            rw [word rest apart, induction rest.length shorter plainRest rfl,
              solidRuns_append nonempty solid apart]
            rfl

theorem map_text_classify (runs : List (List Char)) :
    (runs.map classify).map Token.text = runs.map String.ofList := by
  rw [List.map_map]
  refine List.map_congr_left fun run _ => ?_
  rw [← String.toList_inj, Function.comp_apply, text_classify, String.toList_ofList]

/-! ## Descriptions -/

theorem isQuoted_classify (word : List Char) : (classify word).isQuoted = false :=
  classify_cases (p := fun token => token.isQuoted = false) rfl (fun _ => rfl) (fun _ _ => rfl)
    (fun _ _ => rfl) (fun _ => rfl) word

/-- Without quoted text, the description is the rest of the line. -/
theorem descriptionText_of_unquoted {found : List Token}
    (unquoted : ∀ token ∈ found, token.isQuoted = false) :
    descriptionText found = restText found := by
  have none : found.filter Token.isQuoted = (none : Option Token).toList := by
    simpa [List.filter_eq_nil_iff] using unquoted
  rw [descriptionText, takeQuoted, takeFirst_of_filter none]
  rfl

theorem restText_drop {input : String} {found : List Token}
    (texts : found.map Token.text = solidWords input) (count : Nat) :
    restText (found.drop count) = joinWords ((solidWords input).drop count) := by
  rw [restText, List.map_drop, texts]

/-- A text that opens no delimiter falls into tokens whose texts are its words. When from some point
on no token is a tag or a flag, then behind whatever stands in front of them these tokens come last
in the line, and read as a description they are their words with single blanks between them. -/
theorem texts_of_undelimited {input : String} (plain : Undelimited input.toList) :
    ∃ found, tokenize input = .ok found ∧
      found.map Token.text = solidWords input ∧
      ∀ count, (∀ token ∈ found.drop count, token.isPositional = true) →
        (∀ front, LineTokens.ofTokens (front ++ found.drop count) =
          { LineTokens.ofTokens front with
            positional := (LineTokens.ofTokens front).positional ++ found.drop count }) ∧
        restText (found.drop count) = joinWords ((solidWords input).drop count) ∧
        descriptionText (found.drop count) = joinWords ((solidWords input).drop count) := by
  have texts := map_text_classify (solidRuns input.toList)
  refine ⟨_, tokens_eq_map_classify plain, texts, fun count positional => ?_⟩
  have rest := restText_drop texts count
  have unquoted : ∀ token ∈ ((solidRuns input.toList).map classify).drop count,
      token.isQuoted = false := fun token member => by
    obtain ⟨run, -, rfl⟩ := List.mem_map.1 (List.mem_of_mem_drop member)
    exact isQuoted_classify run
  refine ⟨fun front => ?_, rest, (descriptionText_of_unquoted unquoted).trans rest⟩
  rw [LineTokens.ofTokens_append, LineTokens.ofTokens_of_positional positional, List.append_nil,
    List.append_nil]

/-- A route without quotes. -/
def plainRoute : String := "/pets -> list #pets Lists\t read:pets:  10 -> 5 > 1, # http://a/b?c=d"

/-- The tokens of the route. -/
def plainRouteTokens : List Token :=
  [.word "/pets", .arrow, .word "list", .tag "pets", .word "Lists", .typed "read" "pets:",
    .word "10", .arrow, .word "5", .word ">", .word "1,", .word "#", .word "http://a/b?c=d"]

/-- The words behind the tag are the summary of the route. -/
theorem texts_of_plainRoute :
    Undelimited plainRoute.toList ∧ tokenize plainRoute = .ok plainRouteTokens ∧
      plainRouteTokens.map Token.text = solidWords plainRoute ∧
      (∀ token ∈ plainRouteTokens.drop 4, token.isPositional = true) ∧
      LineTokens.ofTokens plainRouteTokens =
        ⟨[.word "/pets", .arrow, .word "list"] ++ plainRouteTokens.drop 4, ["pets"], []⟩ ∧
      descriptionText (plainRouteTokens.drop 4) =
        "Lists read:pets: 10 -> 5 > 1, # http://a/b?c=d" ∧
      (LineTokens.ofTokens plainRouteTokens).route "get" .get = .ok {
        method := .get
        path := "/pets"
        operationId := "list"
        summary := "Lists read:pets: 10 -> 5 > 1, # http://a/b?c=d"
        tags := ["pets"]
        deprecated := false } := by
  have free : (plainRoute.toList.all fun c => c != '"' && (c != '<' && c != '(')) = true := rfl
  have plain : Undelimited plainRoute.toList := by simpa [Undelimited] using List.all_eq_true.1 free
  obtain ⟨found, lexed, texts, described⟩ := texts_of_undelimited plain
  have read : tokenize plainRoute = .ok plainRouteTokens := by with_unfolding_all rfl
  obtain rfl : found = plainRouteTokens := Except.ok.inj (lexed.symm.trans read)
  have positional : ∀ token ∈ plainRouteTokens.drop 4, token.isPositional = true := by decide
  obtain ⟨placed, -, description⟩ := described 4 positional
  refine ⟨plain, read, texts, positional, placed (plainRouteTokens.take 4), ?_, rfl⟩
  rw [description]
  rfl

end DocApi
