import DocApi.Annotation.Line
import DocApi.Proofs.Annotation.Tokens
import DocApi.Proofs.Annotation.Verbs
import DocApi.Proofs.Keyed

/-!
# Written lines

An annotation line is written as its verb and a number of pieces, each after one blank. When every
piece fits the place it stands in, the line is read as the tokens of its pieces, in order, and the
verb may be spelled in any case.
-/

namespace DocApi

/-! ## Listed values -/

/-- A value of a parenthesised list as it is written: in plain double quotes. -/
def writeValue (text : String) : List Char := '"' :: text.toList ++ ['"']

/-- The values of a parenthesised list with the gaps between them; a gap that is not given is a
comma. -/
def writeValues : List String → List (List Char) → List Char
  | [], _ => []
  | [text], _ => writeValue text
  | text :: next :: texts, gaps =>
      writeValue text ++ gaps.headD [','] ++ writeValues (next :: texts) gaps.tail

/-- What may stand between two values of a list: a bar or a comma, with any blanks around it. -/
def IsGap (gap : List Char) : Prop :=
  ∃ before mark after, gap = before ++ mark :: after ∧ (mark = '|' ∨ mark = ',') ∧
    (∀ c ∈ before, isBlank c = true) ∧ ∀ c ∈ after, isBlank c = true

/-- Whether a text can be a value of a parenthesised list: it holds neither the end of the list nor
the end of a value. -/
def IsListable (text : String) : Prop := ∀ c ∈ text.toList, c ≠ ')' ∧ c ≠ '|' ∧ c ≠ ','

/-- Whether a character ends a value of a parenthesised list. -/
def endsValue (c : Char) : Bool := c == '|' || c == ','

theorem endsValue_of_blank {c : Char} (blank : isBlank c = true) : endsValue c = false := by
  by_contra ends
  simp only [endsValue, Bool.not_eq_false, Bool.or_eq_true, beq_iff_eq] at ends
  rcases ends with rfl | rfl <;> · revert blank; decide

theorem endsValue_of_mem_writeValue {text : String} (listable : IsListable text) :
    ∀ c ∈ writeValue text, endsValue c = false := by
  intro c member
  simp only [writeValue, List.cons_append, List.mem_cons, List.mem_append, List.not_mem_nil,
    or_false] at member
  rcases member with rfl | member | rfl
  · decide
  · obtain ⟨-, bar, comma⟩ := listable c member
    simp [endsValue, bar, comma]
  · decide

theorem endsSolid_writeValue (text : String) : EndsSolid (writeValue text) :=
  ⟨'"' :: text.toList, '"', rfl, by decide⟩

theorem trim_writeValue_append (text : String) {blanks : List Char}
    (blank : ∀ c ∈ blanks, isBlank c = true) :
    trim (writeValue text ++ blanks) = writeValue text := by
  have start : trimStart (writeValue text ++ blanks) = writeValue text ++ blanks :=
    trimStart_of_solid (by decide) _
  rw [trim, start, trimEnd_append_of_blank _ blank,
    trimEnd_of_endsSolid (endsSolid_writeValue text)]

theorem isGap_headD {gaps : List (List Char)} (proper : ∀ gap ∈ gaps, IsGap gap) :
    IsGap (gaps.headD [',']) := by
  cases gaps with
  | nil => exact ⟨[], ',', [], rfl, Or.inr rfl, nofun, nofun⟩
  | cons gap gaps => exact proper gap List.mem_cons_self

/-- Cut at bars and commas and trimmed, a list falls into its values as they are written. -/
theorem map_trim_piecesBy_writeValues {texts : List String} {gaps : List (List Char)}
    (nonempty : texts ≠ []) (listable : ∀ text ∈ texts, IsListable text)
    (proper : ∀ gap ∈ gaps, IsGap gap) :
    (piecesBy endsValue (writeValues texts gaps)).map trim = texts.map writeValue := by
  fun_induction writeValues texts gaps with
  | case1 => exact absurd rfl nonempty
  | case2 text gaps =>
      have free := endsValue_of_mem_writeValue (listable text List.mem_cons_self)
      have trimmed := trim_writeValue_append text (List.forall_mem_nil _)
      rw [List.append_nil] at trimmed
      rw [piecesBy_of_free free, List.map_singleton, List.map_singleton, trimmed]
  | case3 text next texts gaps induction =>
      have later := induction (by simp)
        (fun other member => listable other (List.mem_cons_of_mem text member))
        fun gap member => proper gap (List.mem_of_mem_tail member)
      obtain ⟨before, mark, after, gap, isMark, blankBefore, blankAfter⟩ := isGap_headD proper
      have cuts : endsValue mark = true := by rcases isMark with rfl | rfl <;> rfl
      have free : ∀ c ∈ writeValue text ++ before, endsValue c = false := by
        intro c member
        rcases List.mem_append.1 member with inValue | inGap
        · exact endsValue_of_mem_writeValue (listable text List.mem_cons_self) c inValue
        · exact endsValue_of_blank (blankBefore c inGap)
      rw [gap, show writeValue text ++ (before ++ mark :: after) ++
          writeValues (next :: texts) gaps.tail =
          (writeValue text ++ before) ++ mark :: (after ++ writeValues (next :: texts) gaps.tail) by
        simp]
      have kept : ∀ c ∈ after, endsValue c = false := fun c member =>
        endsValue_of_blank (blankAfter c member)
      rw [piecesBy_append free cuts, List.map_cons, trim_writeValue_append text blankBefore,
        map_trim_piecesBy_append blankAfter kept, later, List.map_cons, List.map_cons,
        List.map_cons]

theorem unquote?_writeValue (text : String) : unquote? (writeValue text) = some text.toList := by
  simp [unquote?, writeValue, afterStart?, beforeEnd?]

/-- The values of a list are read back as texts. -/
theorem readListedValues_writeValues {texts : List String} {gaps : List (List Char)}
    (listable : ∀ text ∈ texts, IsListable text) (proper : ∀ gap ∈ gaps, IsGap gap) :
    readListedValues (String.ofList (writeValues texts gaps)) = texts.map .string := by
  by_cases empty : texts = []
  · subst empty
    rfl
  · have pieces := map_trim_piecesBy_writeValues empty listable proper
    have kept : (texts.map writeValue).filter (!·.isEmpty) = texts.map writeValue := by
      simp [List.filter_eq_self, writeValue]
    have read : ∀ text, readListedValue (writeValue text) = .string text := by
      intro text
      simp [readListedValue, unquote?_writeValue, readFlagValue]
    unfold readListedValues
    change ((((piecesBy endsValue _).map trim).filter _).map _) = _
    rw [String.toList_ofList, pieces, kept, List.map_map]
    exact List.map_congr_left fun text _ => read text

theorem endsSolid_writeValues {texts : List String} (gaps : List (List Char))
    (nonempty : texts ≠ []) : EndsSolid (writeValues texts gaps) := by
  fun_induction writeValues texts gaps with
  | case1 => exact absurd rfl nonempty
  | case2 text => exact endsSolid_writeValue text
  | case3 text next texts gaps induction => exact (induction (by simp)).append _

theorem trim_writeValues (texts : List String) (gaps : List (List Char)) :
    trim (writeValues texts gaps) = writeValues texts gaps := by
  cases texts with
  | nil => rfl
  | cons text texts =>
      have ends := endsSolid_writeValues gaps (List.cons_ne_nil text texts)
      obtain ⟨rest, starts⟩ : ∃ rest, writeValues (text :: texts) gaps = '"' :: rest := by
        cases texts <;> simp [writeValues, writeValue]
      rw [starts] at ends ⊢
      exact trim_eq_self (by decide) ends

theorem paren_not_mem_gap {gap : List Char} (proper : IsGap gap) : ')' ∉ gap := by
  obtain ⟨before, mark, after, rfl, isMark, blankBefore, blankAfter⟩ := proper
  intro member
  simp only [List.mem_append, List.mem_cons] at member
  rcases member with member | rfl | member
  · exact absurd (blankBefore _ member) (by decide)
  · revert isMark
    decide
  · exact absurd (blankAfter _ member) (by decide)

theorem paren_not_mem_writeValue {text : String} (listable : IsListable text) :
    ')' ∉ writeValue text := by
  intro member
  simp only [writeValue, List.cons_append, List.mem_cons, List.mem_append, List.not_mem_nil,
    or_false] at member
  rcases member with quote | member | quote
  · revert quote
    decide
  · exact (listable _ member).1 rfl
  · revert quote
    decide

theorem paren_not_mem_writeValues {texts : List String} {gaps : List (List Char)}
    (listable : ∀ text ∈ texts, IsListable text) (proper : ∀ gap ∈ gaps, IsGap gap) :
    ')' ∉ writeValues texts gaps := by
  fun_induction writeValues texts gaps with
  | case1 => exact List.not_mem_nil
  | case2 text => exact paren_not_mem_writeValue (listable text List.mem_cons_self)
  | case3 text next texts gaps induction =>
      have first := paren_not_mem_writeValue (listable text List.mem_cons_self)
      have gap := paren_not_mem_gap (isGap_headD proper)
      have later := induction
        (fun other member => listable other (List.mem_cons_of_mem text member))
        fun gap member => proper gap (List.mem_of_mem_tail member)
      simp only [List.mem_append, not_or]
      exact ⟨⟨first, gap⟩, later⟩

/-! ## Pieces -/

/-- A word that is read as itself: alone it is one word or typed name with its own text, and its
angle brackets are closed. -/
def ClosedWord (word : String) : Prop :=
  ∃ token : Token, LexesAlone word.toList token ∧ token.isBare = true ∧ token.text = word

/-- One piece of an annotation line. -/
inductive Piece where
  /-- A text in double quotes. -/
  | quoted (text : String)
  /-- A bare word. -/
  | bare (word : String)
  /-- `name:type` -/
  | typed (name type : String)
  /-- `#name` -/
  | tag (name : String)
  /-- `->` -/
  | arrow
  /-- `key="value"` -/
  | flag (key value : String)
  /-- `<text>` -/
  | angle (text : String)
  /-- `("text","text")`, with the gaps between the texts. -/
  | values (texts : List String) (gaps : List (List Char))
deriving DecidableEq, Repr

namespace Piece

/-- A piece as it is written. -/
def write : Piece → List Char
  | quoted text => quote text
  | bare word => word.toList
  | typed name type => name.toList ++ ':' :: type.toList
  | tag name => '#' :: name.toList
  | arrow => ['-', '>']
  | flag key value => key.toList ++ '=' :: quote value
  | angle text => '<' :: text.toList ++ ['>']
  | values texts gaps => '(' :: writeValues texts gaps ++ [')']

/-- The token that a piece is read as. -/
def token : Piece → Token
  | quoted text => .quoted text
  | bare word => classify word.toList
  | typed name type => .typed name type
  | tag name => .tag name
  | arrow => .arrow
  | flag key value => .flag key value true
  | angle text => .angle text
  | values texts gaps => .paren (String.ofList (writeValues texts gaps))

/-- What a piece has to satisfy to be read as its token. Quoted text is free. -/
def Fits : Piece → Prop
  | quoted _ | arrow => True
  | bare word => ClosedWord word
  | typed name type => LexesAlone (name.toList ++ ':' :: type.toList) (.typed name type)
  | tag name => LexesAlone ('#' :: name.toList) (.tag name)
  | flag key _ => isKey key.toList = true
  | angle text => '>' ∉ text.toList ∧ trim text.toList = text.toList
  | values texts gaps => (∀ text ∈ texts, IsListable text) ∧ ∀ gap ∈ gaps, IsGap gap

end Piece

theorem ClosedWord.isBare_and_wordText {word : String} (closed : ClosedWord word) :
    (classify word.toList).isBare = true ∧ WordText word.toList (classify word.toList) := by
  obtain ⟨token, lexes, bare, spelled⟩ := closed
  have plain : token.isPlain = true := by cases token <;> trivial
  have text := lexes.wordText plain (by rw [spelled])
  rw [text.classified]
  exact ⟨bare, text⟩

theorem ClosedWord.isBare {word : String} (closed : ClosedWord word) :
    (classify word.toList).isBare = true :=
  closed.isBare_and_wordText.1

theorem ClosedWord.wordText {word : String} (closed : ClosedWord word) :
    WordText word.toList (classify word.toList) :=
  closed.isBare_and_wordText.2

theorem closedWord_of_lexesAlone {word : String} (alone : LexesAlone word.toList (.word word)) :
    ClosedWord word :=
  ⟨.word word, alone, rfl, rfl⟩

-- The recursion of `tokens` is well-founded: a fixed text is lexed with all definitions unfolded.
theorem wordText_arrow : WordText ['-', '>'] .arrow :=
  LexesAlone.wordText ⟨by with_unfolding_all rfl, by decide⟩ rfl rfl

theorem wordText_typed {name type : String}
    (lexes : LexesAlone (name.toList ++ ':' :: type.toList) (.typed name type)) :
    WordText (name.toList ++ ':' :: type.toList) (.typed name type) :=
  lexes.wordText rfl (by simp [Token.text])

theorem wordText_tag {name : String} (lexes : LexesAlone ('#' :: name.toList) (.tag name)) :
    WordText ('#' :: name.toList) (.tag name) :=
  lexes.wordText rfl (by simp [Token.text])

namespace Piece

/-- A piece that fits is read as its token. -/
theorem lexesAs {piece : Piece} (fits : piece.Fits) : LexesAs piece.write piece.token := by
  cases piece with
  | quoted text => exact lexesAs_quote text
  | bare word => exact (ClosedWord.wordText fits).lexesAs
  | typed name type => exact (wordText_typed fits).lexesAs
  | tag name => exact (wordText_tag fits).lexesAs
  | arrow => exact wordText_arrow.lexesAs
  | flag key value => exact lexesAs_flag fits value
  | angle text => exact lexesAs_angle fits.1 fits.2
  | values texts gaps =>
      exact lexesAs_paren (paren_not_mem_writeValues fits.1 fits.2) (trim_writeValues texts gaps)

theorem endsSolid {piece : Piece} (fits : piece.Fits) : EndsSolid piece.write := by
  have mark : ∀ (front : List Char) {last : Char}, isBlank last = false →
      EndsSolid (front ++ [last]) := fun front last solid => ⟨front, last, rfl, solid⟩
  have quotes : ∀ text, EndsSolid (quote text) := fun text => mark _ (by decide)
  cases piece with
  | quoted text => exact quotes text
  | bare word => exact (ClosedWord.wordText fits).endsSolid
  | typed name type => exact (wordText_typed fits).endsSolid
  | tag name => exact (wordText_tag fits).endsSolid
  | arrow => exact wordText_arrow.endsSolid
  | flag key value => exact ((quotes value).append ['=']).append key.toList
  | angle text => exact mark _ (by decide)
  | values texts gaps => exact mark _ (by decide)

end Piece

/-- A flag when it has a value. -/
def flagPieces (key : String) (value : Option String) : List Piece :=
  (value.map (Piece.flag key)).toList

theorem fits_flagPieces {key : String} (valid : isKey key.toList = true) (value : Option String) :
    ∀ piece ∈ flagPieces key value, piece.Fits := by
  cases value with
  | none => exact List.forall_mem_nil _
  | some value => simpa [flagPieces, Piece.Fits] using valid

/-! ## Lines -/

/-- The pieces of a line, each after one blank. -/
def writePieces (pieces : List Piece) : List Char := pieces.flatMap fun piece => ' ' :: piece.write

/-- An annotation line. -/
def writeLine (verb : String) (pieces : List Piece) : List Char :=
  '!' :: verb.toList ++ writePieces pieces

theorem startsBlank_writePieces (pieces : List Piece) : StartsBlank (writePieces pieces) := by
  cases pieces with
  | nil => exact nofun
  | cons piece pieces => exact startsBlank_cons rfl _

/-- Pieces that fit are read as their tokens, in order. -/
theorem tokens_writePieces {pieces : List Piece} (fits : ∀ piece ∈ pieces, piece.Fits) :
    tokens (writePieces pieces) = .ok (pieces.map Piece.token) := by
  induction pieces with
  | nil => with_unfolding_all rfl
  | cons piece pieces induction =>
      have first := Piece.lexesAs (fits piece List.mem_cons_self) (writePieces pieces)
        (startsBlank_writePieces pieces)
      have later := induction fun other member => fits other (List.mem_cons_of_mem piece member)
      rw [writePieces, List.flatMap_cons, List.cons_append, tokens_of_blank (by decide)]
      rw [← writePieces, first, later]
      rfl

theorem endsSolid_append_writePieces {front : List Char} {pieces : List Piece}
    (solid : EndsSolid front) (fits : ∀ piece ∈ pieces, piece.Fits) :
    EndsSolid (front ++ writePieces pieces) := by
  induction pieces generalizing front with
  | nil => simpa [writePieces] using solid
  | cons piece pieces induction =>
      have first := (Piece.endsSolid (fits piece List.mem_cons_self)).append (front ++ [' '])
      have later := induction first fun other member =>
        fits other (List.mem_cons_of_mem piece member)
      simpa [writePieces] using later

/-- The verbs are words of letters. -/
theorem Verb.letters_of_ofWord? {word : String} {verb : Verb} (known : ofWord? word = some verb) :
    word.toList ≠ [] ∧ ∀ c ∈ word.toList, c.isAlpha = true := by
  have letters : (table.all fun entry =>
      !entry.1.toList.isEmpty && entry.1.toList.all Char.isAlpha) = true := by
    decide
  have own := List.all_eq_true.1 letters (word, verb) (Keyed.mem_of_at? known)
  simpa using own

theorem letters_of_asciiLower {verb word : String} (spelled : asciiLower verb = word)
    (letters : word.toList ≠ [] ∧ ∀ c ∈ word.toList, c.isAlpha = true) :
    verb.toList ≠ [] ∧ ∀ c ∈ verb.toList, c.isAlpha = true := by
  have lower : word.toList = verb.toList.map Char.toLower := by simp [← spelled, asciiLower]
  rw [lower] at letters
  refine ⟨by simpa using letters.1, fun c member => ?_⟩
  rw [← isAlpha_toLower]
  exact letters.2 c.toLower (List.mem_map_of_mem member)

theorem splitVerb_writeLine {verb : String} {pieces : List Piece}
    (letters : verb.toList ≠ [] ∧ ∀ c ∈ verb.toList, c.isAlpha = true)
    (fits : ∀ piece ∈ pieces, piece.Fits) :
    splitVerb (writeLine verb pieces) = some (verb.toList, trimStart (writePieces pieces)) := by
  obtain ⟨nonempty, alpha⟩ := letters
  have solid : ∀ c ∈ verb.toList, isBlank c = false := fun c member =>
    solid_of_isAlphanum (by simp [Char.isAlphanum, alpha c member])
  have ends : EndsSolid ('!' :: verb.toList) := by
    refine EndsSolid.append ?_ ['!']
    exact ⟨verb.toList.dropLast, verb.toList.getLast nonempty,
      (List.dropLast_append_getLast nonempty).symm, solid _ (List.getLast_mem nonempty)⟩
  have trimmed : trimEnd (writePieces pieces) = writePieces pieces := by
    have kept := trimEnd_of_endsSolid (endsSolid_append_writePieces ends fits)
    rwa [trimEnd_append_of_endsSolid ends, List.append_cancel_left_eq] at kept
  have letter : verb.toList.head?.any Char.isAlpha = true := by
    rw [List.head?_eq_some_head nonempty]
    exact alpha _ (List.head_mem nonempty)
  have line : writeLine verb pieces = '!' :: (verb.toList ++ writePieces pieces) := rfl
  rw [line, splitVerb_cons solid (startsBlank_writePieces pieces), if_pos letter,
    ← trimStart_trimEnd, trimmed]

/-- The tokens of pieces by their roles. -/
def LineTokens.ofPieces (pieces : List Piece) : LineTokens := ofTokens (pieces.map Piece.token)

/-- A line of a known verb, spelled in any case, is read from the tokens of its pieces. -/
theorem parseLine_writeLine {verb word : String} {kind : Verb} {pieces : List Piece}
    (spelled : asciiLower verb = word) (known : Verb.ofWord? word = some kind)
    (fits : ∀ piece ∈ pieces, piece.Fits) :
    parseLine (writeLine verb pieces) = some <$> (LineTokens.ofPieces pieces).read word kind := by
  have letters := letters_of_asciiLower spelled (Verb.letters_of_ofWord? known)
  have lexed : tokens (trimStart (writePieces pieces)) = .ok (pieces.map Piece.token) := by
    rw [tokens_trimStart, tokens_writePieces fits]
  simp only [parseLine_eq, splitVerb_writeLine letters fits, String.ofList_toList, spelled, known,
    lexed]
  rfl

end DocApi
