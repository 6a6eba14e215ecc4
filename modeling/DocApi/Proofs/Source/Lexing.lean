import DocApi.Source.Lexer
import DocApi.Proofs.Text

/-!
# Reading source text piece by piece

A text that is put together from names, marks and brackets is read as the trees of its pieces. A
piece is read with what follows it in sight: a name goes on as long as it can, and a mark takes note
of a mark that follows at once.
-/

namespace DocApi

/-! ## Characters of identifiers -/

theorem continuesIdentifier_of_startsIdentifier {c : Char} (starts : startsIdentifier c = true) :
    continuesIdentifier c = true := by
  simp only [startsIdentifier] at starts
  simp only [continuesIdentifier]
  split at starts
  · simp only [*, if_true, Char.isAlphanum, Bool.or_eq_true] at starts ⊢
    tauto
  · simp [*]

theorem ne_of_continuesIdentifier {c mark : Char} (continues : continuesIdentifier c = true)
    (other : continuesIdentifier mark = false) : c ≠ mark := by
  rintro rfl
  rw [continues] at other
  cases other

/-- The codes around the blanks beyond ASCII, the marks of writing direction and the byte order
mark. -/
def separators : CodeRanges :=
  [(0x85, 0x85), (0xA0, 0xA0), (0x1680, 0x1680), (0x2000, 0x200A), (0x200E, 0x200F),
    (0x2028, 0x202F), (0x205F, 0x205F), (0x3000, 0x3000), (0xFEFF, 0xFEFF)]

theorem CodeRanges.has_of_apart {ranges others : CodeRanges}
    (apart : (ranges.all fun range => others.all fun other =>
      range.2 < other.1 || other.2 < range.1) = true)
    {c : Char} (within : others.has c = true) : ranges.has c = false := by
  by_contra shared
  simp only [CodeRanges.has, Bool.not_eq_false, List.any_eq_true, Bool.and_eq_true,
    decide_eq_true_eq] at within shared
  obtain ⟨other, known, first, last⟩ := within
  obtain ⟨range, listed, start, stop⟩ := shared
  have disjoint := List.all_eq_true.1 (List.all_eq_true.1 apart range listed) other known
  simp only [Bool.or_eq_true, decide_eq_true_eq] at disjoint
  omega

theorem has_separators_of_continuesIdentifier {c : Char}
    (continues : continuesIdentifier c = true) :
    separators.has c = false := by
  by_contra separates
  simp only [Bool.not_eq_false] at separates
  have starts : identifierStarts.has c = false :=
    CodeRanges.has_of_apart (by decide +kernel) separates
  have tails : identifierTails.has c = false :=
    CodeRanges.has_of_apart (by decide +kernel) separates
  have beyond : 0x80 ≤ c.toNat := by
    simp [CodeRanges.has, separators] at separates
    omega
  simp [continuesIdentifier, Nat.not_lt.2 beyond, starts, tails] at continues

namespace Source

theorem code_of_isSourceBlank {c : Char} (blank : isSourceBlank c = true) :
    isBlank c = true ∧ c.toNat < 0x80 ∨ separators.has c = true := by
  simp only [isSourceBlank, Bool.or_eq_true, beq_iff_eq] at blank
  rcases blank with (blank | rfl) | rfl
  · by_cases ascii : c.toNat < 0x80
    · exact Or.inl ⟨blank, ascii⟩
    · simp [isBlank] at blank
      simp only [CodeRanges.has, separators, List.any_cons, List.any_nil, Bool.or_eq_true,
        Bool.and_eq_true, decide_eq_true_eq]
      omega
  · decide
  · decide

theorem solid_of_continuesIdentifier {c : Char} (continues : continuesIdentifier c = true) :
    isSourceBlank c = false := by
  by_contra blank
  rcases code_of_isSourceBlank (by simpa using blank) with ⟨blank, ascii⟩ | separates
  · simp only [continuesIdentifier, ascii, if_true, Bool.or_eq_true, beq_iff_eq] at continues
    rcases continues with letter | rfl
    · rw [solid_of_isAlphanum letter] at blank
      cases blank
    · revert blank
      decide
  · rw [has_separators_of_continuesIdentifier continues] at separates
    cases separates

/-! ## Names -/

/-- Whether a text is the name of an identifier. -/
def isName : List Char → Bool
  | [] => false
  | c :: text => startsIdentifier c && text.all continuesIdentifier

theorem all_of_isName {text : List Char} (name : isName text = true) :
    ∀ c ∈ text, continuesIdentifier c = true := by
  cases text with
  | nil => cases name
  | cons c text =>
      simp only [isName, Bool.and_eq_true, List.all_eq_true] at name
      simpa [continuesIdentifier_of_startsIdentifier name.1] using name.2

/-- What may follow a name: nothing, or a character that is in no identifier and starts no literal
together with the name. -/
def EndsName (rest : List Char) : Prop :=
  ∀ c ∈ rest.head?, continuesIdentifier c = false ∧ c ≠ '"' ∧ c ≠ '#' ∧ c ≠ '\''

/-- A text that does not start with a quote or a hash. -/
def Unquoted (text : List Char) : Prop := ∀ c ∈ text.head?, c ≠ '"' ∧ c ≠ '#' ∧ c ≠ '\''

theorem unquoted_append {text rest : List Char}
    (continued : ∀ c ∈ text, continuesIdentifier c = true) (ends : EndsName rest) :
    Unquoted (text ++ rest) := by
  cases text with
  | nil => exact fun c first => (ends c first).2
  | cons c text =>
      have continues := continued c List.mem_cons_self
      rintro d ⟨⟩
      exact ⟨ne_of_continuesIdentifier continues (by decide),
        ne_of_continuesIdentifier continues (by decide),
        ne_of_continuesIdentifier continues (by decide)⟩

/-- The same holds after a character of the name. -/
theorem unquoted_of_append_eq_cons {text rest back : List Char} {d : Char}
    (continued : ∀ c ∈ text, continuesIdentifier c = true) (ends : EndsName rest)
    (cut : text ++ rest = d :: back) (continues : continuesIdentifier d = true) :
    Unquoted back := by
  cases text with
  | nil =>
      have stops := (ends d (by simp_all)).1
      rw [continues] at stops
      cases stops
  | cons c text =>
      obtain ⟨rfl, rfl⟩ := List.cons.inj cut
      exact unquoted_append (fun e member => continued e (List.mem_cons_of_mem c member)) ends

theorem readRawString_of_unquoted (kind : StringKind) {text : List Char} (plain : Unquoted text) :
    readRawString kind text = none := by
  cases text with
  | nil => rfl
  | cons c text =>
      obtain ⟨quote, hash, -⟩ := plain c rfl
      simp [readRawString, hash, quote]

section Name

variable {c : Char} {text rest : List Char}

theorem readName_append (name : isName (c :: text) = true) (ends : EndsName rest) :
    readName (c :: (text ++ rest)) = some (c :: text, rest) := by
  simp only [isName, Bool.and_eq_true, List.all_eq_true] at name
  have stops : rest.takeWhile continuesIdentifier = [] ∧
      rest.dropWhile continuesIdentifier = rest := by
    cases rest with
    | nil => exact ⟨rfl, rfl⟩
    | cons d rest => simp [(ends d rfl).1]
  simp [readName, name.1, List.takeWhile_append_of_pos name.2, List.dropWhile_append_of_pos name.2,
    stops]

/-- No string starts where a name does: the letters of its beginning are followed by a quote or a
hash. -/
theorem readStringLiteral_append (name : isName (c :: text) = true) (ends : EndsName rest) :
    readStringLiteral (c :: (text ++ rest)) = none := by
  have continued := all_of_isName name
  have tail : ∀ d ∈ text, continuesIdentifier d = true := fun d member =>
    continued d (List.mem_cons_of_mem c member)
  have plain := unquoted_append tail ends
  have quoteless : ∀ {back}, text ++ rest ≠ '"' :: back := fun cut =>
    (plain '"' (by rw [cut]; rfl)).1 rfl
  have raw : ∀ kind {back}, text ++ rest = 'r' :: back → readRawString kind back = none :=
    fun kind _ cut => readRawString_of_unquoted kind
      (unquoted_of_append_eq_cons tail ends cut (by decide))
  unfold readStringLiteral
  split
  · rename_i equality
    obtain ⟨rfl, -⟩ := List.cons.inj equality
    exact absurd (continued '"' List.mem_cons_self) (by decide)
  · rename_i equality
    obtain ⟨-, rfl⟩ := List.cons.inj equality
    simp [readRawString_of_unquoted .text plain]
  · rename_i equality
    exact absurd (List.cons.inj equality).2 quoteless
  · rename_i equality
    simp [raw .bytes (List.cons.inj equality).2]
  · rename_i equality
    exact absurd (List.cons.inj equality).2 quoteless
  · rename_i equality
    simp [raw .terminated (List.cons.inj equality).2]
  · rfl

theorem readCharLiteral_append (name : isName (c :: text) = true) (ends : EndsName rest) :
    readCharLiteral (c :: (text ++ rest)) = none := by
  have continued := all_of_isName name
  have plain := unquoted_append (fun d member => continued d (List.mem_cons_of_mem c member)) ends
  unfold readCharLiteral
  split
  · rename_i equality
    obtain ⟨rfl, -⟩ := List.cons.inj equality
    exact absurd (continued '\'' List.mem_cons_self) (by decide)
  · rename_i equality
    have cut := (List.cons.inj equality).2
    exact absurd rfl (plain '\'' (by rw [cut]; rfl)).2.2
  · rfl

theorem isDigit_of_startsIdentifier (starts : startsIdentifier c = true) : c.isDigit = false := by
  by_contra digit
  rw [Bool.not_eq_false, isDigit_iff] at digit
  have ascii : c.toNat < 0x80 := by omega
  rw [startsIdentifier, if_pos ascii, Bool.or_eq_true, beq_iff_eq, isAlpha_iff, isUpper_iff,
    isLower_iff] at starts
  rcases starts with letter | rfl
  · omega
  · revert digit
    decide

theorem ten_le_of_hexDigit? {digit : Nat} (other : c.isDigit = false)
    (found : Json.hexDigit? c = some digit) : 10 ≤ digit := by
  have decimal : ¬('0' ≤ c && c ≤ '9') = true := by
    simpa [Char.isDigit, Char.le_def] using other
  simp only [Json.hexDigit?, decimal] at found
  grind

theorem readNumberLiteral_of_startsIdentifier (starts : startsIdentifier c = true)
    (text : List Char) : readNumberLiteral (c :: text) = none := by
  have digit := isDigit_of_startsIdentifier starts
  have float : readFloatDigits (c :: text) = none := by simp [readFloatDigits, digit]
  have zero : c ≠ '0' := by
    rintro rfl
    cases digit
  have digits : readIntegerDigits (c :: text) = readBaseDigits 10 0 true (c :: text) := by
    unfold readIntegerDigits
    split <;> simp_all
  have base : readBaseDigits 10 0 true (c :: text) = none := by
    rw [readBaseDigits, if_neg (by simp [digit])]
    split
    · rfl
    · split
      · rename_i found
        rw [if_pos (ten_le_of_hexDigit? digit found)]
        rfl
      · rfl
  simp [readNumberLiteral, float, digits, base]

theorem readLiteral_append (name : isName (c :: text) = true) (ends : EndsName rest) :
    readLiteral (c :: (text ++ rest)) = none := by
  have starts : startsIdentifier c = true := by
    simp only [isName, Bool.and_eq_true] at name
    exact name.1
  simp [readLiteral, readStringLiteral_append name ends, readCharLiteral_append name ends,
    readNumberLiteral_of_startsIdentifier starts]

theorem readMark_of_continuesIdentifier (continues : continuesIdentifier c = true)
    (text : List Char) : readMark (c :: text) = none := by
  have slash : c ≠ '/' := ne_of_continuesIdentifier continues (by decide)
  have others : (punctuation.all fun mark => !continuesIdentifier mark) = true := rfl
  have unmarked : c ∉ punctuation := fun member => by
    simpa [continues] using List.all_eq_true.1 others c member
  unfold readMark
  split <;> simp_all

theorem stringStarts_append (name : isName (c :: text) = true) (ends : EndsName rest) :
    (stringStarts.any fun start => startsWith start (c :: (text ++ rest))) = false := by
  have continued := all_of_isName name
  have tail : ∀ d ∈ text, continuesIdentifier d = true := fun d member =>
    continued d (List.mem_cons_of_mem c member)
  have plain := unquoted_append tail ends
  cases following : text ++ rest with
  | nil => simp [stringStarts, startsWith, afterStart?]
  | cons d back =>
      obtain ⟨quote, hash, apostrophe⟩ := plain d (by rw [following]; rfl)
      -- Only an `r` can stand between the first letter of a string and its quote or hash.
      by_cases raw : d = 'r'
      · subst raw
        have later := unquoted_of_append_eq_cons tail ends following (by decide)
        cases back with
        | nil => simp [stringStarts, startsWith, afterStart?]
        | cons e more =>
            obtain ⟨quote', hash', -⟩ := later e rfl
            simp [stringStarts, startsWith, afterStart?, quote'.symm, hash'.symm]
      · simp [stringStarts, startsWith, afterStart?, quote.symm, hash.symm, apostrophe.symm,
          Ne.symm raw]

theorem readIdent_append (name : isName (c :: text) = true) (ends : EndsName rest) :
    readIdent (c :: (text ++ rest)) =
      some (⟨String.ofList (c :: text), false, by simp⟩, rest) := by
  have continued := all_of_isName name
  have plain := unquoted_append (fun d member => continued d (List.mem_cons_of_mem c member)) ends
  unfold readIdent
  split
  · rename_i equality
    have cut := (List.cons.inj equality).2
    exact absurd rfl (plain '#' (by rw [cut]; rfl)).2.1
  · simp [readName_append name ends, Ident.ofName?]

/-- A name is read as an identifier. -/
theorem readLeaf_append (name : isName (c :: text) = true) (ends : EndsName rest) :
    readLeaf (c :: (text ++ rest)) =
      some (.ident ⟨String.ofList (c :: text), false, by simp⟩, rest) := by
  have continues := all_of_isName name c List.mem_cons_self
  simp [readLeaf, readLiteral_append name ends, readPunct,
    readMark_of_continuesIdentifier continues, stringStarts_append name ends,
    readIdent_append name ends]

end Name

/-! ## Pieces of a text -/

theorem skipComment_of_ne {c : Char} (slash : c ≠ '/') (text : List Char) :
    skipComment (c :: text) = none := by
  unfold skipComment
  split <;> simp_all

theorem readDocComment_of_ne {c : Char} (slash : c ≠ '/') (text : List Char) :
    readDocComment (c :: text) = none := by
  unfold readDocComment
  split <;> simp_all

theorem startsWith_faultMark_of_ne {c : Char} (paren : c ≠ '(') (text : List Char) :
    startsWith faultMark (c :: text) = false := by
  have spelled : faultMark = '(' :: "/*ERROR*/)".toList := rfl
  simp [startsWith, spelled, afterStart?, Ne.symm paren]

section Delimiter

variable {c : Char} (continues : continuesIdentifier c = true)
include continues

theorem opening?_of_continuesIdentifier : opening? c = none := by
  unfold opening?
  split
  · exact absurd continues (by decide)
  · exact absurd continues (by decide)
  · exact absurd continues (by decide)
  · rfl

theorem closing?_of_continuesIdentifier : closing? c = none := by
  unfold closing?
  split
  · exact absurd continues (by decide)
  · exact absurd continues (by decide)
  · exact absurd continues (by decide)
  · rfl

end Delimiter

/-- A text is read as the given trees in front of what follows it: at any depth of brackets, in at
most as many steps as it has characters. -/
def ReadsAs (text : List Char) (trees : List Tree) (rest : List Char) : Prop :=
  ∃ steps ≤ text.length, ∀ fuel opened done,
    readTrees (fuel + steps) opened done (text ++ rest) =
      readTrees fuel opened (trees.reverse ++ done) rest

namespace ReadsAs

theorem append {first second rest : List Char} {trees more : List Tree}
    (front : ReadsAs first trees (second ++ rest)) (back : ReadsAs second more rest) :
    ReadsAs (first ++ second) (trees ++ more) rest := by
  obtain ⟨steps, short, reads⟩ := front
  obtain ⟨others, short', reads'⟩ := back
  refine ⟨others + steps, by rw [List.length_append]; omega, fun fuel opened done => ?_⟩
  rw [← Nat.add_assoc, List.append_assoc, reads, reads', List.reverse_append, List.append_assoc]

theorem leaf {c : Char} {text rest : List Char} {tree : Tree} (solid : isSourceBlank c = false)
    (slash : c ≠ '/') (opens : opening? c = none) (closes : closing? c = none)
    (read : readLeaf (c :: (text ++ rest)) = some (tree, rest)) :
    ReadsAs (c :: text) [tree] rest := by
  have paren : c ≠ '(' := by
    rintro rfl
    cases opens
  refine ⟨1, by simp, fun fuel opened done => ?_⟩
  rw [List.cons_append, readTrees.eq_def]
  simp [solid, skipComment_of_ne slash, readDocComment_of_ne slash,
    startsWith_faultMark_of_ne paren, opens, closes, read]

/-- The marks that types are written with. -/
theorem mark (mark : Char) (known : mark ∈ ['<', '>', ',', ':', '&']) (rest : List Char) :
    ReadsAs [mark] [.punct mark (readMark rest).isSome] rest := by
  simp only [List.mem_cons, List.not_mem_nil, or_false] at known
  rcases known with rfl | rfl | rfl | rfl | rfl <;> exact leaf (by decide) (by decide) rfl rfl rfl

/-- A name in front of something else. -/
theorem name {ident : Ident} (plain : ident.raw = false) (spelled : isName ident.name.toList = true)
    {rest : List Char} (ends : EndsName rest) :
    ReadsAs ident.name.toList [.ident ident] rest := by
  obtain ⟨name, raw, nonempty⟩ := ident
  obtain rfl : raw = false := plain
  cases letters : name.toList with
  | nil => exact absurd (by simpa using letters) nonempty
  | cons c text =>
      simp only [letters] at spelled
      have same : String.ofList (c :: text) = name := by rw [← letters, String.ofList_toList]
      have continues := all_of_isName spelled c List.mem_cons_self
      have read := readLeaf_append spelled ends
      simp only [same] at read
      exact leaf (solid_of_continuesIdentifier continues)
        (ne_of_continuesIdentifier continues (by decide))
        (opening?_of_continuesIdentifier continues)
        (closing?_of_continuesIdentifier continues) read

/-- Brackets around a text. -/
theorem bracket {text rest : List Char} {trees : List Tree}
    (inner : ReadsAs text trees (']' :: rest)) :
    ReadsAs ('[' :: (text ++ [']'])) [.group .bracket trees] rest := by
  obtain ⟨steps, short, reads⟩ := inner
  have slash : ('[' : Char) ≠ '/' := by decide
  have slash' : (']' : Char) ≠ '/' := by decide
  refine ⟨1 + steps + 1, by simp; omega, fun fuel opened done => ?_⟩
  have opening : readTrees (fuel + (1 + steps + 1)) opened done ('[' :: (text ++ [']']) ++ rest) =
      readTrees (fuel + 1 + steps) ((.bracket, done) :: opened) [] (text ++ ']' :: rest) := by
    rw [show fuel + (1 + steps + 1) = fuel + 1 + steps + 1 by omega,
      show '[' :: (text ++ [']']) ++ rest = '[' :: (text ++ ']' :: rest) by simp, readTrees.eq_def]
    simp [skipComment_of_ne slash, readDocComment_of_ne slash,
      startsWith_faultMark_of_ne (show ('[' : Char) ≠ '(' by decide), opening?,
      show isSourceBlank '[' = false by decide]
  have closing : readTrees (fuel + 1) ((.bracket, done) :: opened) (trees.reverse ++ [])
      (']' :: rest) = readTrees fuel opened (.group .bracket trees :: done) rest := by
    rw [readTrees.eq_def]
    simp [skipComment_of_ne slash', readDocComment_of_ne slash',
      startsWith_faultMark_of_ne (show (']' : Char) ≠ '(' by decide), opening?, closing?,
      show isSourceBlank ']' = false by decide]
  rw [opening, reads, closing]
  rfl

/-- A blank in front of a text. -/
theorem blank (rest : List Char) : ReadsAs [' '] [] rest := by
  refine ⟨1, le_rfl, fun fuel opened done => ?_⟩
  rw [List.cons_append, readTrees.eq_def]
  exact if_pos (by decide)

/-- A text that is read whole has the trees it is read as. -/
theorem trees? {text : List Char} {trees : List Tree} (reads : ReadsAs text trees [])
    (unmarked : text.head? ≠ some '\uFEFF') : Source.trees? text = some trees := by
  obtain ⟨steps, short, reads⟩ := reads
  have whole : dropByteOrderMark text = text := by
    unfold dropByteOrderMark
    split
    · simp at unmarked
    · rfl
  have read := reads (text.length - steps + 1) [] []
  rw [List.append_nil, List.append_nil, show text.length - steps + 1 + steps = text.length + 1 by
    omega] at read
  rw [Source.trees?, whole, read, readTrees.eq_def]
  simp

end ReadsAs

end Source

end DocApi
