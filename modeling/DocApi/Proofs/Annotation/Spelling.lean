import DocApi.Proofs.Annotation.Tokens
import DocApi.Proofs.Source.DocText

/-!
# The canonical spelling of tokens

Tokens that were read from a text can be written again, with one blank between them, and are read
back as they are. Texts that stood in delimiters are trimmed already, a word keeps what it took over
blanks, and only the last word of a text can have an angle bracket left open.
-/

namespace DocApi

namespace Token

/-- A token as it is written: with its delimiters, and with quotes and backslashes escaped. -/
def spell : Token → List Char
  | .quoted text => quote text
  | .angle text => '<' :: text.toList ++ ['>']
  | .paren text => '(' :: text.toList ++ [')']
  | .flag key value true => key.toList ++ '=' :: quote value
  | token => token.text.toList

/-- Tokens as they are written in a line, with single blanks between them. -/
def render (tokens : List Token) : String := String.ofList ([' '].intercalate (tokens.map spell))

end Token

/-! ## Words -/

theorem spell_classify (word : List Char) : (classify word).spell = word := by
  have undelimited : (classify word).spell = (classify word).text.toList :=
    classify_cases (p := fun token => token.spell = token.text.toList) rfl (fun _ => rfl)
      (fun _ _ => rfl) (fun _ _ => rfl) (fun _ => rfl) word
  rw [undelimited, text_classify]

/-- The word at the start of a text is a word by itself. -/
theorem spanWord_fst (depth : Nat) (text : List Char) :
    spanWord depth (spanWord depth text).1 = ((spanWord depth text).1, []) := by
  induction text generalizing depth with
  | nil => rfl
  | cons c text induction =>
      by_cases stops : (isBlank c && depth == 0) = true
      · simp [spanWord, stops]
      · simp [spanWord, stops, induction]

/-- A word goes on to the end of the text, or its angle brackets are closed. -/
theorem spanWord_ends (depth : Nat) (text : List Char) :
    (spanWord depth text).2 = [] ∨ (spanWord depth text).1.foldl angleDepth depth = 0 := by
  induction text generalizing depth with
  | nil => exact Or.inl rfl
  | cons c text induction =>
      by_cases stops : (isBlank c && depth == 0) = true
      · have outside : isBlank c = true ∧ depth = 0 := by simpa using stops
        exact Or.inr (by simp [spanWord, outside])
      · simpa [spanWord, stops] using induction (angleDepth depth c)

/-- What starts a flag starts it with anything after it. -/
theorem quotedFlag?_eq_none_of_append {text rest : List Char}
    (plain : quotedFlag? (text ++ rest) = none) : quotedFlag? text = none := by
  rw [Option.eq_none_iff_forall_ne_some] at plain ⊢
  rintro ⟨key, body⟩ found
  obtain ⟨valid, cut⟩ := quotedFlag?_eq_some_iff.1 found
  exact plain (key, body ++ rest) (quotedFlag?_eq_some_iff.2 ⟨valid, by simp [cut]⟩)

/-! ## One token -/

theorem tokens_nil : tokens [] = .ok [] := by
  rw [tokens]
  rfl

/-- How a token that was read is read again: in front of any blank, or at least alone. -/
def Reread (token : Token) (rest : List Char) : Prop :=
  LexesAs token.spell token ∨ rest = [] ∧ tokens token.spell = .ok [token]

theorem reread_lexDelimited {opening closing : Char} {make : String → Token}
    {text rest : List Char} {token : Token}
    (lexed : lexDelimited opening closing make text = .ok (token, rest))
    (lexes : ∀ inner : String, closing ∉ inner.toList → trim inner.toList = inner.toList →
      LexesAs (make inner).spell (make inner)) : Reread token rest := by
  unfold lexDelimited at lexed
  split at lexed
  · rename_i value after found
    obtain ⟨rfl, -⟩ := Prod.mk.inj (Except.ok.inj lexed)
    refine Or.inl (lexes _ ?_ ?_)
    · rw [String.toList_ofList]
      exact fun member => not_mem_of_cutAt found (trim_subset value member)
    · rw [String.toList_ofList, trim_trim]
  · cases lexed

theorem reread_lexWord {c : Char} {text rest : List Char} {token : Token}
    (solid : isBlank c = false) (starts : ∀ more, lexToken c more = lexWord (c :: more))
    (lexed : lexWord (c :: text) = .ok (token, rest)) : Reread token rest := by
  have whole := lexed
  unfold lexWord at lexed
  split at lexed
  · rename_i key body flag
    obtain ⟨valid, -⟩ := quotedFlag?_eq_some_iff.1 flag
    split at lexed
    · rename_i value after read
      obtain ⟨rfl, -⟩ := Prod.mk.inj (Except.ok.inj lexed)
      exact Or.inl (lexesAs_flag (by rwa [String.toList_ofList]) _)
    · cases lexed
  · rename_i flagless
    have classified : classify (spanWord 0 (c :: text)).1 = token :=
      (Prod.mk.inj (Except.ok.inj lexed)).1
    have left : (spanWord 0 (c :: text)).2 = rest := (Prod.mk.inj (Except.ok.inj lexed)).2
    have cut := spanWord_append_eq 0 (c :: text)
    rw [left] at cut
    have spelled : token.spell = (spanWord 0 (c :: text)).1 := by
      rw [← classified, spell_classify]
    rw [Reread, spelled]
    rcases spanWord_ends 0 (c :: text) with last | closed
    · -- Nothing follows the word, so it is all of the text, whether its brackets are closed or not.
      obtain rfl : rest = [] := left.symm.trans last
      rw [List.append_nil] at cut
      refine Or.inr ⟨rfl, ?_⟩
      rw [cut, tokens_of_lexToken solid ((starts text).trans whole), tokens_nil]
      rfl
    · have first : ∃ tail, (spanWord 0 (c :: text)).1 = c :: tail := by simp [spanWord, solid]
      obtain ⟨tail, first⟩ := first
      have plain : quotedFlag? (spanWord 0 (c :: text)).1 = none := by
        rw [← cut] at flagless
        exact quotedFlag?_eq_none_of_append flagless
      exact Or.inl (WordText.lexesAs
        ⟨⟨c, tail, first, solid, starts⟩, plain, spanWord_fst 0 _, closed, classified⟩)

/-- A token that was read is read again from its spelling. -/
theorem reread_lexToken {c : Char} {text rest : List Char} {token : Token}
    (solid : isBlank c = false) (lexed : lexToken c text = .ok (token, rest)) :
    Reread token rest := by
  by_cases quotes : c = '"'
  · rw [lexToken, if_pos quotes, lexQuoted] at lexed
    split at lexed
    · obtain ⟨rfl, -⟩ := Prod.mk.inj (Except.ok.inj lexed)
      exact Or.inl (lexesAs_quote _)
    · cases lexed
  by_cases angle : c = '<'
  · rw [lexToken, if_neg quotes, if_pos angle] at lexed
    exact reread_lexDelimited lexed fun inner free trimmed => lexesAs_angle free trimmed
  by_cases paren : c = '('
  · rw [lexToken, if_neg quotes, if_neg angle, if_pos paren] at lexed
    refine reread_lexDelimited lexed fun inner free trimmed => ?_
    have lexes := lexesAs_paren free trimmed
    rwa [String.ofList_toList] at lexes
  · have starts := lexToken_of_solid quotes angle paren
    rw [starts] at lexed
    exact reread_lexWord solid starts lexed

/-! ## All tokens -/

/-- The spellings of tokens, each after one blank. -/
def spellAll (found : List Token) : List Char := found.flatMap fun token => ' ' :: token.spell

theorem startsBlank_spellAll (found : List Token) : StartsBlank (spellAll found) := by
  cases found with
  | nil => exact nofun
  | cons token found => exact startsBlank_cons rfl _

theorem tokens_spellAll {text : List Char} {found : List Token} (lexed : tokens text = .ok found) :
    tokens (spellAll found) = .ok found := by
  fun_induction tokens text generalizing found with
  | case1 =>
      obtain rfl := Except.ok.inj lexed
      exact tokens_nil
  | case2 => cases lexed
  | case3 => cases lexed
  | case4 text c rest start token after first more later induction =>
      obtain rfl := Except.ok.inj lexed
      have again := induction later
      have blank : tokens (spellAll (token :: more)) = tokens (token.spell ++ spellAll more) :=
        tokens_of_blank (by decide) _
      rw [blank]
      rcases reread_lexToken (solid_of_trimStart start) first with lexes | ⟨ended, alone⟩
      · rw [lexes _ (startsBlank_spellAll more), again]
        rfl
      · rw [ended, tokens_nil] at later
        obtain rfl := Except.ok.inj later
        rw [spellAll, List.flatMap_nil, List.append_nil, alone]

theorem spellAll_cons (token : Token) (found : List Token) :
    spellAll (token :: found) = ' ' :: [' '].intercalate ((token :: found).map Token.spell) := by
  induction found generalizing token with
  | nil => simp [spellAll]
  | cons next found induction =>
      have later := induction next
      rw [spellAll, List.flatMap_cons, ← spellAll, later]
      simp [List.intercalate_cons_cons]

theorem tokenize_render_eq (found : List Token) :
    tokenize (Token.render found) = tokens (spellAll found) := by
  rw [tokenize, Token.render, String.toList_ofList]
  cases found with
  | nil => rfl
  | cons token found =>
      rw [spellAll_cons, tokens_of_blank (by decide)]

/-- Reading a text and writing its tokens settles the text: from its canonical spelling the same
tokens are read. -/
theorem tokenize_render {input : String} {found : List Token}
    (lexed : tokenize input = .ok found) : tokenize (Token.render found) = .ok found := by
  rw [tokenize_render_eq, tokens_spellAll lexed]

/-! ## A crowded line -/

/-- A line whose tokens touch each other, and whose last word is left open. -/
def crowdedLine : String :=
  "id=\"a \\\"b\"n:Map<u8, i8>  \"c\\\\\"<  e >( x |y )#t k=v\"w\t-> Vec<u8, "

/-- The tokens of the line. -/
def crowdedTokens : List Token :=
  [.flag "id" "a \"b" true, .typed "n" "Map<u8, i8>", .quoted "c\\", .angle "e", .paren "x |y",
    .tag "t", .flag "k" "v\"w" false, .arrow, .word "Vec<u8, "]

/-- The line is settled by one blank between its tokens. -/
theorem tokenize_render_crowdedLine :
    tokenize crowdedLine = .ok crowdedTokens ∧
      Token.render crowdedTokens =
        "id=\"a \\\"b\" n:Map<u8, i8> \"c\\\\\" <e> (x |y) #t k=v\"w -> Vec<u8, " ∧
      tokenize (Token.render crowdedTokens) = .ok crowdedTokens := by
  have lexed : tokenize crowdedLine = .ok crowdedTokens := by with_unfolding_all rfl
  exact ⟨lexed, by decide, tokenize_render lexed⟩

end DocApi
