import DocApi.Proofs.Annotation.Spelling

/-!
# Texts joined by a blank

A token is read alike with more text behind it, unless it is a word that goes on to the end of its
text with an angle bracket left open: such a word takes the blank with it. So a text can be cut at a
blank and its parts read on their own exactly if the first part does not end inside an open word.
-/

namespace DocApi

/-! ## Reading on -/

/-- Reading a text takes tokens off its front and leaves the rest. -/
inductive ReadsTo : (text : List Char) → (found : List Token) → (rest : List Char) → Prop
  | here (text : List Char) : ReadsTo text [] text
  | blank {c : Char} {text rest : List Char} {found : List Token} (blank : isBlank c = true)
      (later : ReadsTo text found rest) : ReadsTo (c :: text) found rest
  | token {c : Char} {text after rest : List Char} {token : Token} {found : List Token}
      (solid : isBlank c = false) (lexed : lexToken c text = .ok (token, after))
      (later : ReadsTo after found rest) : ReadsTo (c :: text) (token :: found) rest

namespace ReadsTo

variable {text rest : List Char} {found : List Token}

theorem tokens_eq (reads : ReadsTo text found rest) :
    tokens text = (found ++ ·) <$> tokens rest := by
  induction reads with
  | here text => cases lexed : tokens text <;> rfl
  | blank blank _ induction => rw [tokens_of_blank blank, induction]
  | @token c text after rest token found solid lexed _ induction =>
      rw [tokens_of_lexToken solid lexed, induction]
      cases tokens rest <;> rfl

theorem of_trimStart (reads : ReadsTo (trimStart text) found rest) : ReadsTo text found rest := by
  induction text with
  | nil => exact reads
  | cons c text induction =>
      by_cases blank : isBlank c = true
      · rw [trimStart, List.dropWhile_cons_of_pos blank] at reads
        exact .blank blank (induction reads)
      · rwa [trimStart_of_solid (by simpa using blank)] at reads

/-- Tokens that are read are taken off one by one, to the end of the text. -/
theorem of_tokens (lexed : tokens text = .ok found) : ReadsTo text found [] := by
  fun_induction tokens text generalizing found with
  | case1 text ended =>
      obtain rfl := Except.ok.inj lexed
      refine of_trimStart ?_
      rw [ended]
      exact .here []
  | case2 => cases lexed
  | case3 => cases lexed
  | case4 text c rest start token after first more later induction =>
      obtain rfl := Except.ok.inj lexed
      refine of_trimStart ?_
      rw [start]
      exact .token (solid_of_trimStart start) first (induction later)

end ReadsTo

/-! ## Open words -/

/-- A text that is one undelimited word from its first character to its last, with an angle bracket
open at the end. -/
structure OpenWord (text : List Char) : Prop where
  start : ∃ c rest, text = c :: rest ∧ isBlank c = false ∧ c ≠ '"' ∧ c ≠ '<' ∧ c ≠ '('
  flagless : quotedFlag? text = none
  whole : spanWord 0 text = (text, [])
  opened : 0 < text.foldl angleDepth 0

/-- Whether a text ends inside a word with an open angle bracket. -/
def EndsOpen (text : List Char) : Prop := ∃ found word, ReadsTo text found word ∧ OpenWord word

namespace OpenWord

variable {text : List Char}

theorem ne_nil (word : OpenWord text) : text ≠ [] := by
  obtain ⟨c, rest, rfl, -⟩ := word.start
  exact List.cons_ne_nil c rest

theorem lexToken_eq {c : Char} (word : OpenWord (c :: text)) :
    lexToken c text = .ok (classify (c :: text), []) := by
  obtain ⟨_, _, cut, -, quote, angle, paren⟩ := word.start
  obtain ⟨rfl, rfl⟩ := List.cons.inj cut
  simp [lexToken_of_solid quote angle paren, lexWord, word.flagless, word.whole]

theorem tokens_eq (word : OpenWord text) : tokens text = .ok [classify text] := by
  obtain ⟨c, rest, rfl, solid, -⟩ := word.start
  rw [tokens_of_lexToken solid word.lexToken_eq, tokens_nil]
  rfl

/-- A blank behind an open word belongs to it. -/
theorem append_blank (word : OpenWord text) {c : Char} (blank : isBlank c = true) :
    OpenWord (text ++ [c]) := by
  obtain ⟨first, rest, cut, start⟩ := word.start
  refine ⟨⟨first, rest ++ [c], by rw [cut, List.cons_append], start⟩, ?_, ?_, ?_⟩
  · exact quotedFlag?_append word.flagless (startsBlank_cons blank [])
  · have inside : spanWord (text.foldl angleDepth 0) [c] = ([c], []) := by
      simp [spanWord, Nat.ne_of_gt word.opened]
    rw [spanWord_append_whole word.whole, inside]
  · rw [List.foldl_append, List.foldl_cons, List.foldl_nil, angleDepth_of_blank blank]
    exact word.opened

end OpenWord

/-! ## Tokens in front of more text -/

section Append

variable {more : List Char}

theorem readQuoted_append {text value rest : List Char}
    (read : readQuoted text = some (value, rest)) :
    readQuoted (text ++ more) = some (value, rest ++ more) := by
  fun_induction readQuoted text generalizing value rest with
  | case1 => cases read
  | case2 text =>
      obtain ⟨rfl, rfl⟩ := Prod.mk.inj (Option.some.inj read)
      rfl
  | case3 => cases read
  | case4 c text induction =>
      obtain ⟨⟨inner, after⟩, found, same⟩ := Option.map_eq_some_iff.1 read
      obtain ⟨rfl, rfl⟩ := Prod.mk.inj same
      simp [readQuoted, induction found]
  | case5 c text quote last escape induction =>
      obtain ⟨⟨inner, after⟩, found, same⟩ := Option.map_eq_some_iff.1 read
      obtain ⟨rfl, rfl⟩ := Prod.mk.inj same
      have again := induction found
      have plain : c ≠ '\\' := fun slash => by
        cases text with
        | nil => exact last slash rfl
        | cons d text => exact escape d text slash rfl
      simp [readQuoted, plain, again]

theorem lexQuoted_append {text after : List Char} {token : Token}
    (lexed : lexQuoted text = .ok (token, after)) :
    lexQuoted (text ++ more) = .ok (token, after ++ more) := by
  cases read : readQuoted text with
  | none =>
      rw [lexQuoted, read] at lexed
      cases lexed
  | some parts =>
      rw [lexQuoted, read] at lexed
      obtain ⟨rfl, rfl⟩ := Prod.mk.inj (Except.ok.inj lexed)
      rw [lexQuoted, readQuoted_append read]

theorem lexDelimited_append {opening closing : Char} {make : String → Token}
    {text after : List Char} {token : Token}
    (lexed : lexDelimited opening closing make text = .ok (token, after)) :
    lexDelimited opening closing make (text ++ more) = .ok (token, after ++ more) := by
  cases cut : cutAt closing text with
  | none =>
      rw [lexDelimited, cut] at lexed
      cases lexed
  | some parts =>
      obtain ⟨value, rest⟩ := parts
      rw [lexDelimited, cut] at lexed
      obtain ⟨rfl, rfl⟩ := Prod.mk.inj (Except.ok.inj lexed)
      have again := cutAt_append (not_mem_of_cutAt cut) (rest ++ more)
      rw [lexDelimited, eq_of_cutAt cut, List.append_assoc, List.cons_append, again]

theorem startsBlank_spanWord (depth : Nat) (text : List Char) :
    StartsBlank (spanWord depth text).2 := by
  induction text generalizing depth with
  | nil => exact nofun
  | cons c text induction =>
      by_cases stops : (isBlank c && depth == 0) = true
      · have blank : isBlank c = true := (Bool.and_eq_true_iff.1 stops).1
        simpa [spanWord, stops, StartsBlank] using blank
      · simpa [spanWord, stops] using induction (angleDepth depth c)

/-- A word whose angle brackets are closed is cut off alike with more text after a blank. -/
theorem spanWord_append_of_closed {text : List Char}
    (closed : (spanWord 0 text).1.foldl angleDepth 0 = 0) (blank : StartsBlank more) :
    spanWord 0 (text ++ more) = ((spanWord 0 text).1, (spanWord 0 text).2 ++ more) := by
  have spanned := spanWord_append (spanWord_fst 0 text) closed
    ((startsBlank_spanWord 0 text).append blank)
  rwa [← List.append_assoc, spanWord_append_eq] at spanned

theorem quotedFlag?_append_of_some {text key body : List Char}
    (flag : quotedFlag? text = some (key, body)) :
    quotedFlag? (text ++ more) = some (key, body ++ more) := by
  obtain ⟨valid, rfl⟩ := quotedFlag?_eq_some_iff.1 flag
  exact quotedFlag?_eq_some_iff.2 ⟨valid, by simp⟩

/-- A word that is not open ends with its angle brackets closed. -/
theorem closed_of_not_openWord {c : Char} {text : List Char}
    (start : isBlank c = false ∧ c ≠ '"' ∧ c ≠ '<' ∧ c ≠ '(')
    (flagless : quotedFlag? (c :: text) = none) (closed : ¬ OpenWord (c :: text)) :
    (spanWord 0 (c :: text)).1.foldl angleDepth 0 = 0 := by
  rcases spanWord_ends 0 (c :: text) with last | shut
  · have word := spanWord_append_eq 0 (c :: text)
    rw [last, List.append_nil] at word
    by_contra opened
    rw [word] at opened
    exact closed ⟨⟨c, text, rfl, start⟩, flagless, Prod.ext word last, Nat.pos_of_ne_zero opened⟩
  · exact shut

theorem lexWord_append {c : Char} {text after : List Char} {token : Token}
    (start : isBlank c = false ∧ c ≠ '"' ∧ c ≠ '<' ∧ c ≠ '(') (closed : ¬ OpenWord (c :: text))
    (blank : StartsBlank more) (lexed : lexWord (c :: text) = .ok (token, after)) :
    lexWord (c :: text ++ more) = .ok (token, after ++ more) := by
  cases flag : quotedFlag? (c :: text) with
  | some parts =>
      obtain ⟨key, body⟩ := parts
      cases read : readQuoted body with
      | none => simp [lexWord, flag, read] at lexed
      | some value =>
          simp only [lexWord, flag, read] at lexed
          obtain ⟨rfl, rfl⟩ := Prod.mk.inj (Except.ok.inj lexed)
          simp only [lexWord, quotedFlag?_append_of_some flag, readQuoted_append read]
  | none =>
      simp only [lexWord, flag] at lexed
      obtain ⟨rfl, rfl⟩ := Prod.mk.inj (Except.ok.inj lexed)
      have spanned := spanWord_append_of_closed (closed_of_not_openWord start flag closed) blank
      simp only [lexWord, quotedFlag?_append flag blank, spanned]

/-- A token is read alike with more text after a blank, unless it is an open word. -/
theorem lexToken_append {c : Char} {text after : List Char} {token : Token}
    (solid : isBlank c = false) (closed : ¬ OpenWord (c :: text)) (blank : StartsBlank more)
    (lexed : lexToken c text = .ok (token, after)) :
    lexToken c (text ++ more) = .ok (token, after ++ more) := by
  by_cases quote : c = '"'
  · simp only [lexToken, if_pos quote] at lexed ⊢
    exact lexQuoted_append lexed
  by_cases angle : c = '<'
  · simp only [lexToken, if_neg quote, if_pos angle] at lexed ⊢
    exact lexDelimited_append lexed
  by_cases paren : c = '('
  · simp only [lexToken, if_neg quote, if_neg angle, if_pos paren] at lexed ⊢
    exact lexDelimited_append lexed
  · rw [lexToken_of_solid quote angle paren] at lexed ⊢
    exact lexWord_append ⟨solid, quote, angle, paren⟩ closed blank lexed

/-- What is read off a text is read off it with more text after a blank, up to an open word at the
very end. -/
theorem ReadsTo.append {text rest : List Char} {found : List Token}
    (reads : ReadsTo text found rest) (blank : StartsBlank more)
    (apart : rest ≠ [] ∨ ¬ EndsOpen text) : ReadsTo (text ++ more) found (rest ++ more) := by
  induction reads with
  | here text => exact .here (text ++ more)
  | blank first later induction =>
      refine .blank first (induction (apart.imp_right fun closed opens => closed ?_))
      obtain ⟨front, word, reads, opened⟩ := opens
      exact ⟨front, word, .blank first reads, opened⟩
  | @token c text after rest token found solid lexed later induction =>
      have closed : ¬ OpenWord (c :: text) := fun word => by
        rcases apart with more | closed
        · obtain ⟨-, rfl⟩ := Prod.mk.inj (Except.ok.inj (lexed.symm.trans word.lexToken_eq))
          cases later
          exact more rfl
        · exact closed ⟨[], c :: text, .here _, word⟩
      refine .token solid (lexToken_append solid closed blank lexed)
        (induction (apart.imp_right fun closed opens => closed ?_))
      obtain ⟨front, word, reads, opened⟩ := opens
      exact ⟨token :: front, word, .token solid lexed reads, opened⟩

end Append

/-! ## Two texts -/

section Joined

variable {text : List Char} {found : List Token} (lexed : tokens text = .ok found)
include lexed

/-- A text that does not end inside an open word keeps its tokens in front of a blank. -/
theorem tokens_append {more : List Char} (closed : ¬ EndsOpen text) (blank : StartsBlank more) :
    tokens (text ++ more) = (found ++ ·) <$> tokens more :=
  ((ReadsTo.of_tokens lexed).append blank (.inr closed)).tokens_eq

/-- The open word that a text ends in is its last token. -/
theorem EndsOpen.exists_last (opens : EndsOpen text) :
    ∃ front word, ReadsTo text front word ∧ OpenWord word ∧ found = front ++ [classify word] := by
  obtain ⟨front, word, reads, opened⟩ := opens
  refine ⟨front, word, reads, opened, ?_⟩
  have whole := reads.tokens_eq
  rw [lexed, opened.tokens_eq] at whole
  exact Except.ok.inj whole

/-- A blank behind a text that ends inside an open word changes its last token. -/
theorem EndsOpen.tokens_append_ne (opens : EndsOpen text) : tokens (text ++ [' ']) ≠ .ok found := by
  obtain ⟨front, word, reads, opened, rfl⟩ := opens.exists_last lexed
  have longer := reads.append (startsBlank_cons (c := ' ') rfl []) (.inl opened.ne_nil)
  intro same
  rw [longer.tokens_eq, (opened.append_blank rfl).tokens_eq] at same
  have last := List.append_cancel_left (Except.ok.inj same)
  have texts := congrArg (fun token => token.text.toList.length) (List.cons.inj last).1
  simp [text_classify] at texts

/-- The brackets at the end of a text are those of its last token. -/
theorem not_endsOpen_of_last {token : Token} (last : found.getLast? = some token)
    (shut : token.text.toList.foldl angleDepth 0 = 0) : ¬ EndsOpen text := by
  intro opens
  obtain ⟨front, word, -, opened, rfl⟩ := opens.exists_last lexed
  obtain rfl : classify word = token := by simpa using last
  rw [text_classify] at shut
  exact opened.opened.ne' shut

end Joined

/-- A text is read on its own in front of a blank, whatever follows, exactly if it does not end
inside a word with an open angle bracket: its tokens come first, then those of what follows, and
what follows fails as it does alone. -/
theorem tokenize_append_blank_iff {first : String} {found : List Token}
    (lexed : tokenize first = .ok found) :
    ¬ EndsOpen first.toList ↔
      ∀ second, tokenize (first ++ " " ++ second) = (found ++ ·) <$> tokenize second := by
  have joined (second : String) :
      (first ++ " " ++ second).toList = first.toList ++ ' ' :: second.toList := by simp
  constructor
  · intro closed second
    rw [tokenize, joined, tokens_append lexed closed (startsBlank_cons rfl _), tokens_of_blank rfl,
      tokenize]
  · intro reads opens
    have alone := reads ""
    rw [tokenize, joined] at alone
    exact opens.tokens_append_ne lexed (by simpa [tokenize, tokens_nil] using alone)

/-- After a map type that is closed, tags and flags are read on their own, and so is a list of
values that is not closed. -/
theorem tokenize_append_blank_of_map :
    tokenize "ids:Map<u8, i8>" = .ok [.typed "ids" "Map<u8, i8>"] ∧
      ¬ EndsOpen "ids:Map<u8, i8>".toList ∧
      tokenize ("ids:Map<u8, i8>" ++ " " ++ "#t k=\"v w\"") =
        .ok [.typed "ids" "Map<u8, i8>", .tag "t", .flag "k" "v w" true] ∧
      tokenize ("ids:Map<u8, i8>" ++ " " ++ "(a|b") = .error (.unterminatedDelimiter '(') := by
  have lexed : tokenize "ids:Map<u8, i8>" = .ok [.typed "ids" "Map<u8, i8>"] := by
    with_unfolding_all rfl
  have closed := not_endsOpen_of_last lexed rfl rfl
  have joined := (tokenize_append_blank_iff lexed).1 closed
  have marks : tokenize "#t k=\"v w\"" = .ok [.tag "t", .flag "k" "v w" true] := by
    with_unfolding_all rfl
  have values : tokenize "(a|b" = .error (.unterminatedDelimiter '(') := by with_unfolding_all rfl
  refine ⟨lexed, closed, ?_, ?_⟩
  · rw [joined, marks]
    rfl
  · rw [joined, values]
    rfl

/-- An open map type takes the blank and what follows it. -/
example : tokenize ("ids:Map<u8," ++ " " ++ "i8>") = .ok [.typed "ids" "Map<u8, i8>"] := by
  with_unfolding_all rfl

end DocApi
