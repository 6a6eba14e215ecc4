import DocApi.Annotation.Error
import DocApi.Annotation.Token
import DocApi.Text.Blank
import DocApi.Text.Split

/-!
# Cutting an annotation line into tokens

Tokens are separated by blanks. A double quote, `<` or `(` at the start of a token delimits it;
everything else is a word. A word goes on over blanks while one of its `<` is open, so that
`Map<String, u8>` is one word, and a word of the form `key="..."` takes its quoted value with it.
-/

namespace DocApi

/-- The characters of a flag's key after the first one. -/
def isKeyChar (c : Char) : Bool := c.isAlphanum || c == '_' || c == '-'

/-- Whether a text can be the key of a flag. -/
def isKey : List Char → Bool
  | [] => false
  | c :: text => (c.isAlpha || c == '_') && text.all isKeyChar

/-- The text up to the closing quote and what follows it. A backslash stands for the character
after it. -/
def readQuoted : List Char → Option (List Char × List Char)
  | [] => none
  | '"' :: rest => some ([], rest)
  | ['\\'] => none
  | '\\' :: c :: rest => (readQuoted rest).map fun (value, rest) => (c :: value, rest)
  | c :: rest => (readQuoted rest).map fun (value, rest) => (c :: value, rest)

/-- The depth of open angle brackets after a character. -/
def angleDepth (depth : Nat) (c : Char) : Nat :=
  if c == '<' then depth + 1 else if c == '>' then depth - 1 else depth

/-- The word at the start of a text, up to the first blank outside angle brackets, and the rest. -/
def spanWord (depth : Nat) : List Char → List Char × List Char
  | [] => ([], [])
  | c :: text =>
      if isBlank c && depth == 0 then ([], c :: text)
      else
        let (word, rest) := spanWord (angleDepth depth c) text
        (c :: word, rest)

/-- The key of a flag with a quoted value at the start of a text, and what follows the opening
quote. -/
def quotedFlag? (text : List Char) : Option (List Char × List Char) :=
  let key := text.takeWhile isKeyChar
  if isKey key then (afterStart? ['=', '"'] (text.drop key.length)).map fun body => (key, body)
  else none

/-- The text without its first character `#`, when something follows it. -/
def tagName? : List Char → Option (List Char)
  | '#' :: c :: name => some (c :: name)
  | _ => none

/-- The parts of `key=value`. -/
def flagParts? (word : List Char) : Option (List Char × List Char) :=
  (cutAt '=' word).filter fun (key, _) => isKey key

/-- The parts of `name:type`. A colon before a slash, or after one, belongs to a URL. -/
def typedParts? (word : List Char) : Option (List Char × List Char) :=
  (cutAt ':' word).filter fun (name, type) =>
    !name.isEmpty && !type.isEmpty && type.head? != some '/' && !name.contains '/'

/-- The token that an undelimited word stands for. -/
def classify (word : List Char) : Token :=
  if word = ['-', '>'] then .arrow
  else
    match tagName? word with
    | some name => .tag (String.ofList name)
    | none =>
        match flagParts? word with
        | some (key, value) => .flag (String.ofList key) (String.ofList value) false
        | none =>
            match typedParts? word with
            | some (name, type) => .typed (String.ofList name) (String.ofList type)
            | none => .word (String.ofList word)

/-- A quoted token whose opening quote is already read. -/
def lexQuoted (text : List Char) : Except AnnotationError (Token × List Char) :=
  match readQuoted text with
  | some (value, rest) => .ok (.quoted (String.ofList value), rest)
  | none => .error .unterminatedQuote

/-- A delimited token whose opening delimiter is already read. -/
def lexDelimited (opening closing : Char) (make : String → Token) (text : List Char) :
    Except AnnotationError (Token × List Char) :=
  match cutAt closing text with
  | some (value, rest) => .ok (make (String.ofList (trim value)), rest)
  | none => .error (.unterminatedDelimiter opening)

/-- An undelimited token. -/
def lexWord (text : List Char) : Except AnnotationError (Token × List Char) :=
  match quotedFlag? text with
  | some (key, body) =>
      match readQuoted body with
      | some (value, rest) => .ok (.flag (String.ofList key) (String.ofList value) true, rest)
      | none => .error .unterminatedQuote
  | none =>
      let (word, rest) := spanWord 0 text
      .ok (classify word, rest)

/-- The token at the start of a text that starts with `c`, and what follows it. -/
def lexToken (c : Char) (text : List Char) : Except AnnotationError (Token × List Char) :=
  if c = '"' then lexQuoted text
  else if c = '<' then lexDelimited '<' '>' .angle text
  else if c = '(' then lexDelimited '(' ')' .paren text
  else lexWord (c :: text)

theorem length_of_readQuoted {text value rest : List Char}
    (h : readQuoted text = some (value, rest)) : rest.length < text.length := by
  fun_induction readQuoted text generalizing value rest with
  | case1 => simp at h
  | case2 => simp_all
  | case3 => simp at h
  | case4 c text ih =>
      simp only [Option.map_eq_some_iff, Prod.exists, Prod.mk.injEq] at h
      obtain ⟨inner, after, found, -, rfl⟩ := h
      have := ih found
      simp only [List.length_cons]
      omega
  | case5 c text _ _ _ ih =>
      simp only [Option.map_eq_some_iff, Prod.exists, Prod.mk.injEq] at h
      obtain ⟨inner, after, found, -, rfl⟩ := h
      have := ih found
      simp only [List.length_cons]
      omega

theorem length_of_cutAt {mark : Char} {text left right : List Char}
    (h : cutAt mark text = some (left, right)) : right.length < text.length := by
  induction text generalizing left right with
  | nil => simp [cutAt] at h
  | cons c text ih =>
      rw [cutAt] at h
      split at h
      · simp_all
      · simp only [Option.map_eq_some_iff, Prod.exists, Prod.mk.injEq] at h
        obtain ⟨inner, after, found, -, rfl⟩ := h
        have := ih found
        simp only [List.length_cons]
        omega

theorem length_of_spanWord (depth : Nat) (text : List Char) :
    (spanWord depth text).2.length ≤ text.length := by
  induction text generalizing depth with
  | nil => simp [spanWord]
  | cons c text ih =>
      rw [spanWord]
      split
      · simp
      · have := ih (angleDepth depth c)
        simp only [List.length_cons]
        omega

theorem length_of_spanWord_cons {c : Char} (solid : isBlank c = false) (text : List Char) :
    (spanWord 0 (c :: text)).2.length < (c :: text).length := by
  have := length_of_spanWord (angleDepth 0 c) text
  simp only [spanWord, solid, Bool.false_and, Bool.false_eq_true, if_false, List.length_cons]
  omega

theorem length_of_quotedFlag? {text key body : List Char}
    (h : quotedFlag? text = some (key, body)) : body.length < text.length := by
  simp only [quotedFlag?] at h
  split at h
  · simp only [Option.map_eq_some_iff, Prod.mk.injEq] at h
    obtain ⟨rest, found, -, rfl⟩ := h
    have := length_of_afterStart? found
    simp only [List.length_cons, List.length_nil, List.length_drop] at this
    omega
  · simp at h

/-- A token that does not start with a blank takes at least one character. -/
theorem length_of_lexToken {c : Char} {text rest : List Char} {token : Token}
    (solid : isBlank c = false) (h : lexToken c text = .ok (token, rest)) :
    rest.length < (c :: text).length := by
  unfold lexToken at h
  split at h
  · unfold lexQuoted at h
    split at h
    · next found =>
        have := length_of_readQuoted found
        simp only [Except.ok.injEq, Prod.mk.injEq] at h
        simp only [List.length_cons, ← h.2]
        omega
    · simp at h
  split at h
  · unfold lexDelimited at h
    split at h
    · next found =>
        have := length_of_cutAt found
        simp only [Except.ok.injEq, Prod.mk.injEq] at h
        simp only [List.length_cons, ← h.2]
        omega
    · simp at h
  split at h
  · unfold lexDelimited at h
    split at h
    · next found =>
        have := length_of_cutAt found
        simp only [Except.ok.injEq, Prod.mk.injEq] at h
        simp only [List.length_cons, ← h.2]
        omega
    · simp at h
  · unfold lexWord at h
    split at h
    · next flag =>
        have := length_of_quotedFlag? flag
        split at h
        · next found =>
            have := length_of_readQuoted found
            simp only [Except.ok.injEq, Prod.mk.injEq] at h
            rw [← h.2]
            omega
        · simp at h
    · simp only [Except.ok.injEq, Prod.mk.injEq] at h
      rw [← h.2]
      exact length_of_spanWord_cons solid text

theorem solid_of_trimStart {c : Char} {text rest : List Char} (h : trimStart text = c :: rest) :
    isBlank c = false := by
  have := List.head?_dropWhile_not isBlank text
  rw [trimStart] at h
  simpa [h] using this

/-- The tokens of a text, or the first error. -/
def tokens (text : List Char) : Except AnnotationError (List Token) :=
  match _start : trimStart text with
  | [] => .ok []
  | c :: rest =>
      match _lexed : lexToken c rest with
      | .error error => .error error
      | .ok (token, rest) =>
          match tokens rest with
          | .error error => .error error
          | .ok more => .ok (token :: more)
termination_by text.length
decreasing_by
  have shorter := length_of_lexToken (solid_of_trimStart _start) _lexed
  have trimmed : (trimStart text).length ≤ text.length := length_dropWhile_le isBlank text
  rw [_start] at trimmed
  omega

/-- The tokens of the text after the verb. -/
def tokenize (input : String) : Except AnnotationError (List Token) := tokens input.toList

/-- The verb of an annotation line and what follows it. A line is an annotation when, blanks
apart, it starts with `!` and an ASCII letter. -/
def splitVerb (line : List Char) : Option (List Char × List Char) :=
  match trim line with
  | '!' :: c :: text =>
      if c.isAlpha then
        let solid := fun c => !isBlank c
        some ((c :: text).takeWhile solid, trimStart ((c :: text).dropWhile solid))
      else none
  | _ => none

end DocApi
