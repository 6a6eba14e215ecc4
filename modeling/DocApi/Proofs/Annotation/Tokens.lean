import DocApi.Annotation.Lexer
import DocApi.Proofs.Text

/-!
# Tokens of written texts

How the pieces of an annotation line are read back. Quoted text is read as it was before it was
quoted, and delimited text as it stands. A word is read as one token, and nothing of what follows
it belongs to it, as long as a blank comes after it and its angle brackets are closed.
-/

namespace DocApi

/-! ## Quoting -/

/-- A character as it is written in double quotes. -/
def escapeChar (c : Char) : List Char := if c = '"' ∨ c = '\\' then ['\\', c] else [c]

/-- A text in double quotes, with a backslash before every quote and every backslash. -/
def quote (text : String) : List Char := '"' :: text.toList.flatMap escapeChar ++ ['"']

theorem readQuoted_escape (text rest : List Char) :
    readQuoted (text.flatMap escapeChar ++ '"' :: rest) = some (text, rest) := by
  induction text with
  | nil => rfl
  | cons c text induction =>
      rw [List.flatMap_cons, List.append_assoc, escapeChar]
      split
      · simp [readQuoted, induction]
      · rename_i plain
        rw [not_or] at plain
        simp [readQuoted, plain.1, plain.2, induction]

/-! ## Words -/

theorem spanWord_append_eq (depth : Nat) (text : List Char) :
    (spanWord depth text).1 ++ (spanWord depth text).2 = text := by
  induction text generalizing depth with
  | nil => rfl
  | cons c text induction =>
      rw [spanWord]
      split
      · rfl
      · simp [induction]

theorem angleDepth_of_blank {c : Char} (blank : isBlank c = true) (depth : Nat) :
    angleDepth depth c = depth := by
  have opening : c ≠ '<' := by
    rintro rfl
    revert blank
    decide
  have closing : c ≠ '>' := by
    rintro rfl
    revert blank
    decide
  simp [angleDepth, opening, closing]

/-- What may follow a word: nothing, or a blank. -/
def StartsBlank (rest : List Char) : Prop := ∀ c ∈ rest.head?, isBlank c = true

theorem startsBlank_cons {c : Char} (blank : isBlank c = true) (text : List Char) :
    StartsBlank (c :: text) := by
  simpa [StartsBlank] using blank

theorem StartsBlank.append {rest more : List Char} (first : StartsBlank rest)
    (second : StartsBlank more) : StartsBlank (rest ++ more) := by
  cases rest with
  | nil => exact second
  | cons c rest => simpa [StartsBlank] using first

theorem spanWord_of_startsBlank {rest : List Char} (blank : StartsBlank rest) :
    spanWord 0 rest = ([], rest) := by
  cases rest with
  | nil => rfl
  | cons c rest => simp [spanWord, blank c rfl]

theorem spanWord_cons_whole {depth : Nat} {c : Char} {text : List Char}
    (whole : spanWord depth (c :: text) = (c :: text, [])) :
    (isBlank c && depth == 0) = false ∧ spanWord (angleDepth depth c) text = (text, []) := by
  rw [spanWord] at whole
  split at whole
  · simp at whole
  · rename_i solid
    exact ⟨by simpa using solid, by simpa [Prod.ext_iff] using whole⟩

/-- Behind a text that belongs to a word the word goes on at the depth that is reached. -/
theorem spanWord_append_whole {depth : Nat} {text more : List Char}
    (whole : spanWord depth text = (text, [])) :
    spanWord depth (text ++ more) =
      (text ++ (spanWord (text.foldl angleDepth depth) more).1,
        (spanWord (text.foldl angleDepth depth) more).2) := by
  induction text generalizing depth with
  | nil => rfl
  | cons c text induction =>
      obtain ⟨solid, inner⟩ := spanWord_cons_whole whole
      rw [List.cons_append, spanWord, solid, induction inner]
      rfl

/-- A word whose angle brackets are closed ends before a blank. -/
theorem spanWord_append {depth : Nat} {text rest : List Char}
    (whole : spanWord depth text = (text, [])) (closed : text.foldl angleDepth depth = 0)
    (blank : StartsBlank rest) : spanWord depth (text ++ rest) = (text, rest) := by
  rw [spanWord_append_whole whole, closed, spanWord_of_startsBlank blank, List.append_nil]

/-- A word whose angle brackets are closed does not end with a blank: outside of brackets the blank
would not belong to it. -/
theorem solid_of_spanWord {depth : Nat} {front : List Char} {last : Char}
    (whole : spanWord depth (front ++ [last]) = (front ++ [last], []))
    (closed : (front ++ [last]).foldl angleDepth depth = 0) : isBlank last = false := by
  induction front generalizing depth with
  | nil =>
      obtain ⟨solid, -⟩ := spanWord_cons_whole whole
      by_cases blank : isBlank last = true
      · have outside : depth = 0 := (angleDepth_of_blank blank depth).symm.trans closed
        rw [blank, outside] at solid
        cases solid
      · simpa using blank
  | cons c front induction =>
      obtain ⟨-, inner⟩ := spanWord_cons_whole whole
      exact induction inner closed

theorem all_isKeyChar {key : List Char} (valid : isKey key = true) :
    ∀ c ∈ key, isKeyChar c = true := by
  cases key with
  | nil => cases valid
  | cons c key =>
      simp only [isKey, Bool.and_eq_true, List.all_eq_true] at valid
      have first : isKeyChar c = true := by
        have start := valid.1
        simp only [isKeyChar, Char.isAlphanum, Bool.or_eq_true] at start ⊢
        tauto
      simpa [first] using valid.2

/-- A flag with a quoted value is a key, an equals sign and an opening quote. -/
theorem quotedFlag?_eq_some_iff {text key body : List Char} :
    quotedFlag? text = some (key, body) ↔
      isKey key = true ∧ text = key ++ '=' :: '"' :: body := by
  simp only [quotedFlag?, Option.ite_none_right_eq_some, Option.map_eq_some_iff]
  constructor
  · rintro ⟨valid, rest, found, equality⟩
    obtain ⟨rfl, rfl⟩ := Prod.mk.inj equality
    refine ⟨valid, ?_⟩
    have front : text.takeWhile isKeyChar = text.take (text.takeWhile isKeyChar).length :=
      List.prefix_iff_eq_take.1 (List.takeWhile_prefix isKeyChar)
    calc
      text = text.take (text.takeWhile isKeyChar).length ++
          text.drop (text.takeWhile isKeyChar).length := (List.take_append_drop _ text).symm
      _ = text.takeWhile isKeyChar ++ '=' :: '"' :: rest := by
        rw [← front, afterStart?_eq_some_iff.1 found]
        rfl
  · rintro ⟨valid, rfl⟩
    have key : (key ++ '=' :: '"' :: body).takeWhile isKeyChar = key := by
      rw [List.takeWhile_append_of_pos (all_isKeyChar valid)]
      simp [show isKeyChar '=' = false by decide]
    rw [key]
    refine ⟨valid, body, ?_, rfl⟩
    simp [afterStart?]

theorem solid_of_isKeyChar {c : Char} (member : isKeyChar c = true) : isBlank c = false := by
  simp only [isKeyChar, Bool.or_eq_true, beq_iff_eq] at member
  rcases member with (member | rfl) | rfl
  · exact solid_of_isAlphanum member
  · decide
  · decide

/-- A blank cannot complete the beginning of a flag. -/
theorem quotedFlag?_append {text rest : List Char} (plain : quotedFlag? text = none)
    (blank : StartsBlank rest) : quotedFlag? (text ++ rest) = none := by
  rw [Option.eq_none_iff_forall_ne_some] at plain ⊢
  rintro ⟨key, body⟩ found
  obtain ⟨valid, equality⟩ := quotedFlag?_eq_some_iff.1 found
  have solid : ∀ c ∈ key ++ ['=', '"'], isBlank c = false := by
    intro c member
    rcases List.mem_append.1 member with inKey | mark
    · exact solid_of_isKeyChar (all_isKeyChar valid c inKey)
    · simp only [List.mem_cons, List.not_mem_nil, or_false] at mark
      rcases mark with rfl | rfl <;> decide
  have cut : text ++ rest = (key ++ ['=', '"']) ++ body := by simp [equality]
  rcases List.append_eq_append_iff.1 cut with ⟨middle, start, after⟩ | ⟨middle, start, -⟩
  · cases middle with
    | nil => exact plain (key, []) (quotedFlag?_eq_some_iff.2 ⟨valid, by simpa using start.symm⟩)
    | cons c middle =>
        have member : c ∈ key ++ ['=', '"'] := by simp [start]
        have here := blank c (by simp [after])
        rw [solid c member] at here
        cases here
  · exact plain (key, middle) (quotedFlag?_eq_some_iff.2 ⟨valid, by simpa using start⟩)

theorem text_classify (word : List Char) : (classify word).text.toList = word := by
  unfold classify
  split
  · rename_i arrow
    rw [arrow]
    rfl
  · split
    · rename_i name found
      unfold tagName? at found
      split at found
      · obtain rfl := Option.some.inj found
        simp [Token.text]
      · cases found
    · split
      · rename_i key value found
        have cut := eq_of_cutAt (Option.eq_some_of_filter_eq_some found)
        simp [Token.text, cut]
      · split
        · rename_i name type found
          have cut := eq_of_cutAt (Option.eq_some_of_filter_eq_some found)
          simp [Token.text, cut]
        · simp [Token.text]

@[simp] theorem text_classify_toList (word : String) : (classify word.toList).text = word := by
  rw [← String.toList_inj, text_classify]

/-- A word stands for a token without delimiters. -/
theorem classify_cases {p : Token → Prop} (arrow : p .arrow) (tag : ∀ name, p (.tag name))
    (flag : ∀ key value, p (.flag key value false)) (typed : ∀ name type, p (.typed name type))
    (bare : ∀ text, p (.word text)) (word : List Char) : p (classify word) := by
  unfold classify
  split
  · exact arrow
  · split
    · exact tag _
    · split
      · exact flag _ _
      · split
        · exact typed _ _
        · exact bare _

/-! ## One token at a time -/

theorem tokens_of_blank {c : Char} (blank : isBlank c = true) (text : List Char) :
    tokens (c :: text) = tokens text := by
  have same : trimStart (c :: text) = trimStart text := by simp [trimStart, blank]
  rw [tokens, tokens, same]

theorem tokens_trimStart (text : List Char) : tokens (trimStart text) = tokens text := by
  induction text with
  | nil => rfl
  | cons c text induction =>
      by_cases blank : isBlank c = true
      · rw [tokens_of_blank blank, ← induction]
        simp [trimStart, blank]
      · simp [trimStart, blank]

theorem tokens_cons {c : Char} (solid : isBlank c = false) (text : List Char) :
    tokens (c :: text) =
      (lexToken c text).bind fun lexed => (lexed.1 :: ·) <$> tokens lexed.2 := by
  have start : trimStart (c :: text) = c :: text := by simp [trimStart, solid]
  rw [tokens]
  split
  · simp_all
  · rename_i first tail found
    rw [start] at found
    obtain ⟨rfl, rfl⟩ := List.cons.inj found
    split
    · rename_i problem failed
      rw [failed]
      rfl
    · rename_i token rest lexed
      rw [lexed]
      cases more : tokens rest <;> simp [Except.bind, more]

theorem tokens_of_lexToken {c : Char} {text rest : List Char} {token : Token}
    (solid : isBlank c = false) (lexed : lexToken c text = .ok (token, rest)) :
    tokens (c :: text) = (token :: ·) <$> tokens rest := by
  rw [tokens_cons solid, lexed]
  rfl

/-- A text that is one token is that token, blanks apart. -/
theorem lexToken_of_tokens_eq_singleton {text : List Char} {token : Token}
    (alone : tokens text = .ok [token]) :
    ∃ c rest after, trimStart text = c :: rest ∧ lexToken c rest = .ok (token, after) := by
  rw [← tokens_trimStart] at alone
  cases start : trimStart text with
  | nil =>
      rw [start, tokens] at alone
      cases alone
  | cons c rest =>
      rw [start, tokens_cons (solid_of_trimStart start)] at alone
      cases lexed : lexToken c rest with
      | error problem =>
          rw [lexed] at alone
          cases alone
      | ok result =>
          obtain ⟨first, after⟩ := result
          rw [lexed] at alone
          change (first :: ·) <$> tokens after = _ at alone
          cases later : tokens after with
          | error problem =>
              rw [later] at alone
              cases alone
          | ok more =>
              rw [later] at alone
              obtain ⟨rfl, -⟩ := List.cons.inj (Except.ok.inj alone)
              exact ⟨c, rest, after, rfl, lexed⟩

/-! ## Written pieces -/

/-- A text is read as the given token in front of nothing, or of a blank. -/
def LexesAs (text : List Char) (token : Token) : Prop :=
  ∀ rest, StartsBlank rest → tokens (text ++ rest) = (token :: ·) <$> tokens rest

theorem lexesAs_of_lexToken {c : Char} {text : List Char} {token : Token}
    (solid : isBlank c = false)
    (lexed : ∀ rest, StartsBlank rest → lexToken c (text ++ rest) = .ok (token, rest)) :
    LexesAs (c :: text) token :=
  fun rest blank => tokens_of_lexToken solid (lexed rest blank)

theorem lexesAs_quote (text : String) : LexesAs (quote text) (.quoted text) := by
  refine lexesAs_of_lexToken (by decide) fun rest _ => ?_
  have read := readQuoted_escape text.toList rest
  simp [lexToken, lexQuoted, read]

theorem lexToken_of_solid {c : Char} (quote : c ≠ '"') (angle : c ≠ '<') (paren : c ≠ '(')
    (text : List Char) : lexToken c text = lexWord (c :: text) := by
  simp [lexToken, quote, angle, paren]

theorem lexesAs_flag {key : String} (valid : isKey key.toList = true) (value : String) :
    LexesAs (key.toList ++ '=' :: quote value) (.flag key value true) := by
  have solid := all_isKeyChar valid
  have named : String.ofList key.toList = key := String.ofList_toList
  cases letters : key.toList with
  | nil =>
      rw [letters] at valid
      cases valid
  | cons c more =>
      rw [letters] at valid solid named
      have first := solid c List.mem_cons_self
      rw [List.cons_append]
      refine lexesAs_of_lexToken (solid_of_isKeyChar first) fun rest _ => ?_
      have flag : quotedFlag? ((c :: more) ++ '=' :: '"' ::
          (value.toList.flatMap escapeChar ++ '"' :: rest)) =
          some (c :: more, value.toList.flatMap escapeChar ++ '"' :: rest) :=
        quotedFlag?_eq_some_iff.2 ⟨valid, rfl⟩
      have plain : lexToken c (more ++ '=' :: quote value ++ rest) =
          lexWord (c :: (more ++ '=' :: quote value ++ rest)) := by
        refine lexToken_of_solid ?_ ?_ ?_ _ <;>
          · rintro rfl
            revert first
            decide
      rw [plain, lexWord]
      simp only [List.cons_append] at flag
      simp [quote, flag, readQuoted_escape, named]

/-- Angle brackets around a trimmed text. -/
theorem lexesAs_angle {text : String} (free : '>' ∉ text.toList)
    (trimmed : trim text.toList = text.toList) :
    LexesAs ('<' :: text.toList ++ ['>']) (.angle text) := by
  refine lexesAs_of_lexToken (by decide) fun rest _ => ?_
  simp [lexToken, lexDelimited, cutAt_append free, trimmed]

/-- Parentheses around a trimmed text. -/
theorem lexesAs_paren {text : List Char} (free : ')' ∉ text) (trimmed : trim text = text) :
    LexesAs ('(' :: text ++ [')']) (.paren (String.ofList text)) := by
  refine lexesAs_of_lexToken (by decide) fun rest _ => ?_
  simp [lexToken, lexDelimited, cutAt_append free, trimmed]

/-- A text is one token when it stands alone, and its angle brackets are closed. -/
structure LexesAlone (text : List Char) (token : Token) : Prop where
  alone : tokens text = .ok [token]
  closed : text.foldl angleDepth 0 = 0

/-- Whether a token is written without delimiters and without a value. -/
def Token.isPlain : Token → Bool
  | .word _ | .typed _ _ | .tag _ | .arrow => true
  | _ => false

theorem eq_make_of_lexDelimited {opening closing : Char} {make : String → Token}
    {text rest : List Char} {token : Token}
    (lexed : lexDelimited opening closing make text = .ok (token, rest)) :
    ∃ inner, token = make inner := by
  unfold lexDelimited at lexed
  split at lexed
  · obtain ⟨rfl, -⟩ := Prod.mk.inj (Except.ok.inj lexed)
    exact ⟨_, rfl⟩
  · cases lexed

/-- Only a text that starts like a word is a plain token. -/
theorem lexWord_of_isPlain {c : Char} {text rest : List Char} {token : Token}
    (lexed : lexToken c text = .ok (token, rest)) (plain : token.isPlain = true) :
    (∀ more, lexToken c more = lexWord (c :: more)) ∧
      quotedFlag? (c :: text) = none ∧
      classify (spanWord 0 (c :: text)).1 = token ∧ (spanWord 0 (c :: text)).2 = rest := by
  have quote : c ≠ '"' := by
    rintro rfl
    simp only [lexToken, if_true, lexQuoted] at lexed
    split at lexed
    · obtain ⟨rfl, -⟩ := Prod.mk.inj (Except.ok.inj lexed)
      cases plain
    · cases lexed
  have angle : c ≠ '<' := by
    rintro rfl
    obtain ⟨inner, rfl⟩ := eq_make_of_lexDelimited (by simpa [lexToken] using lexed)
    cases plain
  have paren : c ≠ '(' := by
    rintro rfl
    obtain ⟨inner, rfl⟩ := eq_make_of_lexDelimited (by simpa [lexToken] using lexed)
    cases plain
  have word := lexToken_of_solid quote angle paren
  rw [word, lexWord] at lexed
  split at lexed
  · split at lexed
    · obtain ⟨rfl, -⟩ := Prod.mk.inj (Except.ok.inj lexed)
      cases plain
    · cases lexed
  · rename_i flagless
    exact ⟨word, flagless, Prod.mk.inj (Except.ok.inj lexed)⟩

/-- A text that is read as one word, whatever follows it after a blank. -/
structure WordText (text : List Char) (token : Token) : Prop where
  start : ∃ c rest, text = c :: rest ∧ isBlank c = false ∧
    ∀ more, lexToken c more = lexWord (c :: more)
  flagless : quotedFlag? text = none
  whole : spanWord 0 text = (text, [])
  closed : text.foldl angleDepth 0 = 0
  classified : classify text = token

/-- A plain token that stands alone and is spelled as it is written has no blanks around it, and
its word is all of the text. -/
theorem LexesAlone.wordText {text : List Char} {token : Token} (lexes : LexesAlone text token)
    (plain : token.isPlain = true) (spelled : token.text.toList = text) : WordText text token := by
  obtain ⟨c, rest, after, start, lexed⟩ := lexToken_of_tokens_eq_singleton lexes.alone
  obtain ⟨word, flagless, classified, left⟩ := lexWord_of_isPlain lexed plain
  have first : (spanWord 0 (c :: rest)).1 = text := by rw [← spelled, ← classified, text_classify]
  have cut := spanWord_append_eq 0 (c :: rest)
  rw [first, left] at cut
  have shorter : (trimStart text).length ≤ text.length := length_dropWhile_le isBlank text
  rw [start, ← cut, List.length_append] at shorter
  have nothing : after = [] := List.length_eq_zero_iff.1 (by omega)
  have same : text = c :: rest := by rw [← cut, nothing, List.append_nil]
  refine ⟨⟨c, rest, same, solid_of_trimStart start, word⟩, ?_, ?_, lexes.closed, ?_⟩
  · rw [same, flagless]
  · rw [← same] at first left
    exact Prod.ext first (left.trans nothing)
  · rw [← classified, first]

theorem WordText.lexesAs {text : List Char} {token : Token} (word : WordText text token) :
    LexesAs text token := by
  obtain ⟨c, rest, same, solid, begins⟩ := word.start
  rw [same]
  refine lexesAs_of_lexToken solid fun more blank => ?_
  have flagless := quotedFlag?_append word.flagless blank
  have spanned := spanWord_append word.whole word.closed blank
  rw [begins, ← List.cons_append, ← same, lexWord, flagless]
  simp [spanned, word.classified]

theorem WordText.lexesAlone {text : List Char} {token : Token} (word : WordText text token) :
    LexesAlone text token := by
  have alone := word.lexesAs [] nofun
  rw [List.append_nil] at alone
  refine ⟨?_, word.closed⟩
  rw [alone, tokens]
  rfl

theorem WordText.endsSolid {text : List Char} {token : Token} (word : WordText text token) :
    EndsSolid text := by
  obtain ⟨c, rest, same, -, -⟩ := word.start
  have nonempty : text ≠ [] := by simp [same]
  obtain ⟨front, last, split⟩ := (List.eq_nil_or_concat text).resolve_left nonempty
  refine ⟨front, last, by simpa using split, ?_⟩
  have whole := word.whole
  have closed := word.closed
  rw [show text = front ++ [last] by simpa using split] at whole closed
  exact solid_of_spanWord whole closed

/-! ## Words without delimiters -/

/-- A text without the characters that open a delimited token. -/
def Undelimited (text : List Char) : Prop := ∀ c ∈ text, c ≠ '"' ∧ c ≠ '<' ∧ c ≠ '('

namespace Undelimited

variable {text : List Char}

theorem angleDepth_eq (plain : Undelimited text) : ∀ c ∈ text, angleDepth 0 c = 0 := by
  intro c member
  simp [angleDepth, (plain c member).2.1]

theorem foldl_angleDepth (plain : Undelimited text) : text.foldl angleDepth 0 = 0 := by
  induction text with
  | nil => rfl
  | cons c text induction =>
      rw [List.foldl_cons, plain.angleDepth_eq c List.mem_cons_self]
      exact induction (List.forall_mem_of_forall_mem_cons plain)

theorem spanWord_eq (plain : Undelimited text) (solid : ∀ c ∈ text, isBlank c = false) :
    spanWord 0 text = (text, []) := by
  induction text with
  | nil => rfl
  | cons c text induction =>
      have later := induction (List.forall_mem_of_forall_mem_cons plain)
        (List.forall_mem_of_forall_mem_cons solid)
      simp [spanWord, solid c List.mem_cons_self, plain.angleDepth_eq c List.mem_cons_self, later]

theorem quotedFlag?_eq_none (plain : Undelimited text) : quotedFlag? text = none := by
  rw [Option.eq_none_iff_forall_ne_some]
  rintro ⟨key, body⟩ found
  obtain ⟨-, cut⟩ := quotedFlag?_eq_some_iff.1 found
  exact (plain '"' (by simp [cut])).1 rfl

/-- A run of characters that are no blanks, none of which opens a delimited token, is one word. -/
theorem wordText (plain : Undelimited text) (solid : ∀ c ∈ text, isBlank c = false)
    (nonempty : text ≠ []) : WordText text (classify text) := by
  refine ⟨?_, plain.quotedFlag?_eq_none, plain.spanWord_eq solid, plain.foldl_angleDepth, rfl⟩
  obtain ⟨c, rest, rfl⟩ := List.exists_cons_of_ne_nil nonempty
  obtain ⟨quote, angle, paren⟩ := plain c List.mem_cons_self
  exact ⟨c, rest, rfl, solid c List.mem_cons_self, lexToken_of_solid quote angle paren⟩

end Undelimited

/-! ## Words of letters and digits -/

section Alphanumeric

variable {text : List Char} (plain : ∀ c ∈ text, c.isAlphanum = true)
include plain

theorem not_mem_of_isAlphanum {mark : Char} (other : mark.isAlphanum = false) : mark ∉ text := by
  intro member
  rw [plain mark member] at other
  cases other

theorem undelimited_of_isAlphanum : Undelimited text := by
  have other {mark : Char} (unlike : mark.isAlphanum = false) : ∀ c ∈ text, c ≠ mark := by
    rintro _ member rfl
    exact not_mem_of_isAlphanum plain unlike member
  exact fun c member => ⟨other rfl c member, other rfl c member, other rfl c member⟩

theorem classify_of_isAlphanum : classify text = .word (String.ofList text) := by
  have noArrow : text ≠ ['-', '>'] := by
    rintro rfl
    exact not_mem_of_isAlphanum plain (by decide : '-'.isAlphanum = false) List.mem_cons_self
  have noTag : tagName? text = none := by
    unfold tagName?
    split
    · exact absurd List.mem_cons_self
        (not_mem_of_isAlphanum plain (by decide : '#'.isAlphanum = false))
    · rfl
  have noFlag : flagParts? text = none := by
    have uncut := cutAt_eq_none (not_mem_of_isAlphanum plain (by decide : '='.isAlphanum = false))
    simp [flagParts?, uncut]
  have noType : typedParts? text = none := by
    have uncut := cutAt_eq_none (not_mem_of_isAlphanum plain (by decide : ':'.isAlphanum = false))
    simp [typedParts?, uncut]
  simp [classify, noArrow, noTag, noFlag, noType]

theorem wordText_of_isAlphanum (nonempty : text ≠ []) :
    WordText text (.word (String.ofList text)) := by
  rw [← classify_of_isAlphanum plain]
  exact (undelimited_of_isAlphanum plain).wordText
    (fun c member => solid_of_isAlphanum (plain c member)) nonempty

end Alphanumeric

/-- A word of letters and digits is one word. -/
theorem lexesAlone_of_isAlphanum {word : String} (nonempty : word ≠ "")
    (plain : ∀ c ∈ word.toList, c.isAlphanum = true) : LexesAlone word.toList (.word word) := by
  have text := wordText_of_isAlphanum plain (by simpa using nonempty)
  rw [String.ofList_toList] at text
  exact text.lexesAlone

end DocApi
