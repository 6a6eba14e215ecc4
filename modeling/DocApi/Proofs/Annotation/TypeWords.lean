import DocApi.Proofs.Annotation.Tokens
import DocApi.Proofs.Source.TypeGrammar
import DocApi.TypeExpr

/-!
# Types as words of annotations

A written type is one word of an annotation line: its blanks stand within angle brackets, and it
holds no quote and no equals sign. After a name and a colon it is read as the type of that name, and
the type expression of the word is the one of the declared type.
-/

namespace DocApi

/-! ## Words at a depth of angle brackets -/

/-- A text is part of one word, from one depth of open angle brackets to another. -/
structure Spanned (before : Nat) (text : List Char) (after : Nat) : Prop where
  whole : spanWord before text = (text, [])
  depth : text.foldl angleDepth before = after

namespace Spanned

theorem nil (depth : Nat) : Spanned depth [] depth := ⟨rfl, rfl⟩

theorem cons {before after : Nat} {c : Char} {text : List Char}
    (solid : (isBlank c && before == 0) = false)
    (rest : Spanned (angleDepth before c) text after) : Spanned before (c :: text) after := by
  refine ⟨?_, rest.depth⟩
  simp [spanWord, solid, rest.whole]

theorem append {before middle after : Nat} {first second : List Char}
    (front : Spanned before first middle) (back : Spanned middle second after) :
    Spanned before (first ++ second) after := by
  induction first generalizing before with
  | nil =>
      obtain rfl : before = middle := front.depth
      exact back
  | cons c first induction =>
      obtain ⟨solid, inner⟩ := spanWord_cons_whole front.whole
      exact cons solid (induction ⟨inner, front.depth⟩)

/-- A text without blanks and angle brackets. -/
theorem of_plain {text : List Char}
    (plain : ∀ c ∈ text, isBlank c = false ∧ c ≠ '<' ∧ c ≠ '>') (depth : Nat) :
    Spanned depth text depth := by
  induction text with
  | nil => exact nil depth
  | cons c text induction =>
      obtain ⟨solid, opening, closing⟩ := plain c List.mem_cons_self
      refine cons (by simp [solid]) ?_
      rw [show angleDepth depth c = depth by simp [angleDepth, opening, closing]]
      exact induction fun d member => plain d (List.mem_cons_of_mem c member)

end Spanned

namespace Source

theorem isBlank_of_continuesIdentifier {c : Char} (continues : continuesIdentifier c = true) :
    isBlank c = false := by
  have solid := solid_of_continuesIdentifier continues
  simp only [isSourceBlank, Bool.or_eq_false_iff] at solid
  exact solid.1.1

theorem spanned_of_continuesIdentifier {text : List Char}
    (continued : ∀ c ∈ text, continuesIdentifier c = true) (depth : Nat) :
    Spanned depth text depth :=
  .of_plain (fun c member => ⟨isBlank_of_continuesIdentifier (continued c member),
    ne_of_continuesIdentifier (continued c member) (by decide),
    ne_of_continuesIdentifier (continued c member) (by decide)⟩) depth

namespace TypeText

theorem spanned_colons (depth : Nat) : Spanned depth [':', ':'] depth :=
  .cons rfl (.cons rfl (.nil _))

theorem spanned_name (name : PlainName) (depth : Nat) : Spanned depth name.text depth :=
  spanned_of_continuesIdentifier (all_of_isName name.spelled) depth

theorem spanned_root (rooted : Bool) (depth : Nat) : Spanned depth (rootText rooted) depth := by
  cases rooted with
  | false => exact .nil depth
  | true => exact spanned_colons depth

theorem spanned_qualifier (qualifier : List PlainName) (depth : Nat) :
    Spanned depth (qualifierText qualifier) depth := by
  induction qualifier with
  | nil => exact .nil depth
  | cons name qualifier induction =>
      exact ((spanned_name name depth).append (spanned_colons depth)).append induction

mutual

/-- The text of a type is part of one word, and its angle brackets are closed. -/
theorem spanned_text : (type : TypeText) → (depth : Nat) → Spanned depth type.text depth
  | path rooted qualifier name arguments, depth =>
      (spanned_root rooted depth).append ((spanned_qualifier qualifier depth).append
        ((spanned_name name depth).append (spanned_arguments arguments depth)))
  | slice element, depth =>
      have opened : Spanned depth ['['] depth := .cons rfl (.nil _)
      have closed : Spanned depth [']'] depth := .cons rfl (.nil _)
      opened.append ((spanned_text element depth).append closed)
  | reference target, depth =>
      have mark : Spanned depth ['&'] depth := .cons rfl (.nil _)
      mark.append (spanned_text target depth)

theorem spanned_arguments : (arguments : List TypeText) → (depth : Nat) →
    Spanned depth (argumentsText arguments) depth
  | [], depth => .nil depth
  | first :: others, depth =>
      have opened : Spanned depth ['<'] (depth + 1) := .cons rfl (.nil _)
      opened.append ((spanned_text first (depth + 1)).append (spanned_more others depth))

theorem spanned_more : (others : List TypeText) → (depth : Nat) →
    Spanned (depth + 1) (moreText others) depth
  | [], _ => .cons rfl (.nil _)
  | next :: others, depth =>
      have comma : Spanned (depth + 1) [',', ' '] (depth + 1) := .cons rfl (.cons rfl (.nil _))
      comma.append ((spanned_text next (depth + 1)).append (spanned_more others depth))

end

/-! ## Characters of a written type -/

/-- The marks and blanks that types are written with. -/
def marks : List Char := [':', '<', '>', ',', ' ', '[', ']', '&']

/-- A text of names, marks and blanks. -/
def Marked (text : List Char) : Prop := ∀ c ∈ text, continuesIdentifier c = true ∨ c ∈ marks

theorem Marked.append {first second : List Char} (front : Marked first) (back : Marked second) :
    Marked (first ++ second) := by
  intro c member
  rcases List.mem_append.1 member with member | member
  · exact front c member
  · exact back c member

theorem marked_of_marks {text : List Char} (known : (text.all (marks.contains ·)) = true) :
    Marked text := by
  intro c member
  have := List.all_eq_true.1 known c member
  exact Or.inr (by simpa using this)

theorem marked_name (name : PlainName) : Marked name.text :=
  fun c member => Or.inl (all_of_isName name.spelled c member)

theorem marked_root (rooted : Bool) : Marked (rootText rooted) := by
  cases rooted <;> exact marked_of_marks (by decide)

theorem marked_qualifier (qualifier : List PlainName) : Marked (qualifierText qualifier) := by
  induction qualifier with
  | nil => exact marked_of_marks rfl
  | cons name qualifier induction =>
      exact ((marked_name name).append (marked_of_marks (by decide))).append induction

mutual

theorem marked_text : (type : TypeText) → Marked type.text
  | path rooted qualifier name arguments =>
      (marked_root rooted).append ((marked_qualifier qualifier).append
        ((marked_name name).append (marked_arguments arguments)))
  | slice element =>
      have opened : Marked ['['] := marked_of_marks (by decide)
      opened.append ((marked_text element).append (marked_of_marks (by decide)))
  | reference target =>
      have mark : Marked ['&'] := marked_of_marks (by decide)
      mark.append (marked_text target)

theorem marked_arguments : (arguments : List TypeText) → Marked (argumentsText arguments)
  | [] => marked_of_marks rfl
  | first :: others =>
      have opened : Marked ['<'] := marked_of_marks (by decide)
      opened.append ((marked_text first).append (marked_more others))

theorem marked_more : (others : List TypeText) → Marked (moreText others)
  | [] => marked_of_marks (by decide)
  | next :: others =>
      have comma : Marked [',', ' '] := marked_of_marks (by decide)
      comma.append ((marked_text next).append (marked_more others))

end

theorem not_mem_text (type : TypeText) {c : Char} (unmarked : c ∉ marks)
    (other : continuesIdentifier c = false) : c ∉ type.text := by
  intro member
  rcases type.marked_text c member with continues | known
  · rw [continues] at other
    cases other
  · exact unmarked known

/-! ## The word after a name -/

theorem exists_text_cons (type : TypeText) : ∃ c rest, type.text = c :: rest ∧ c ≠ '/' := by
  obtain ⟨c, rest, spelled, continues | mark⟩ := type.exists_head
  · exact ⟨c, rest, spelled, ne_of_continuesIdentifier continues (by decide)⟩
  · refine ⟨c, rest, spelled, ?_⟩
    rintro rfl
    revert mark
    decide

section Label

variable (type : TypeText) {label : List Char} (name : isName label = true)
include name

theorem not_mem_label {c : Char} (other : continuesIdentifier c = false) : c ∉ label := by
  intro member
  rw [all_of_isName name c member] at other
  cases other

theorem not_mem_typed : '=' ∉ label ++ ':' :: type.text := by
  simp only [List.mem_append, List.mem_cons, not_or]
  exact ⟨not_mem_label name (by decide), by decide, type.not_mem_text (by decide) (by decide)⟩

theorem classify_typed :
    classify (label ++ ':' :: type.text) =
      .typed (String.ofList label) (String.ofList type.text) := by
  have head : ∀ {mark}, continuesIdentifier mark = false → label.head? ≠ some mark :=
    fun other first => not_mem_label name other (List.mem_of_mem_head? first)
  have nonempty : label.isEmpty = false := by
    cases label with
    | nil => cases name
    | cons c rest => rfl
  have noArrow : label ++ ':' :: type.text ≠ ['-', '>'] := by
    cases label with
    | nil => cases name
    | cons c rest => exact fun same => head (by decide) (congrArg some (List.cons.inj same).1)
  have noTag : tagName? (label ++ ':' :: type.text) = none := by
    cases label with
    | nil => cases name
    | cons c rest =>
        unfold DocApi.tagName?
        split
        · rename_i equality
          exact absurd (congrArg some (List.cons.inj equality).1) (head (by decide))
        · rfl
  have noFlag : flagParts? (label ++ ':' :: type.text) = none := by
    simp only [flagParts?, cutAt_eq_none (not_mem_typed type name), Option.filter_none]
  have parts : typedParts? (label ++ ':' :: type.text) = some (label, type.text) := by
    have cut := cutAt_append (not_mem_label name (by decide : continuesIdentifier ':' = false))
      type.text
    have slash : '/' ∉ label := not_mem_label name (by decide)
    obtain ⟨c, rest, spelled, ordinary⟩ := type.exists_text_cons
    rw [typedParts?, cut]
    simp [nonempty, spelled, ordinary, slash]
  rw [classify, if_neg noArrow, noTag]
  simp only [noFlag, parts]

/-- A name, a colon and a written type are one word, which is read as the type of the name. -/
theorem wordText_typed :
    WordText (label ++ ':' :: type.text)
      (.typed (String.ofList label) (String.ofList type.text)) := by
  have continued := all_of_isName name
  have spanned : Spanned 0 (label ++ ':' :: type.text) 0 :=
    (spanned_of_continuesIdentifier continued 0).append (.cons rfl (type.spanned_text 0))
  refine ⟨?_, ?_, spanned.whole, spanned.depth, classify_typed type name⟩
  · cases label with
    | nil => cases name
    | cons c rest =>
        have continues := continued c List.mem_cons_self
        exact ⟨c, rest ++ ':' :: type.text, rfl, isBlank_of_continuesIdentifier continues,
          lexToken_of_solid (ne_of_continuesIdentifier continues (by decide))
            (ne_of_continuesIdentifier continues (by decide))
            (ne_of_continuesIdentifier continues (by decide))⟩
  · rw [Option.eq_none_iff_forall_ne_some]
    rintro ⟨key, body⟩ found
    obtain ⟨-, cut⟩ := quotedFlag?_eq_some_iff.1 found
    exact not_mem_typed type name (by simp [cut])

end Label

/-! ## The type expression of the word -/

/-- A character that starts or ends a written type. -/
theorem solid_of_mark {c : Char} {known : List Char}
    (listed : continuesIdentifier c = true ∨ c ∈ known)
    (solid : (known.all fun mark => !isBlank mark) = true) : isBlank c = false := by
  rcases listed with continues | mark
  · exact isBlank_of_continuesIdentifier continues
  · simpa using List.all_eq_true.1 solid c mark

theorem trim_text (type : TypeText) : trim type.text = type.text := by
  obtain ⟨front, last, ended, lastKnown⟩ := type.exists_last
  obtain ⟨first, rest, spelled, firstKnown⟩ := type.exists_head
  have ends : EndsSolid type.text := ⟨front, last, ended, solid_of_mark lastKnown (by decide)⟩
  rw [spelled] at ends ⊢
  exact trim_eq_self (solid_of_mark firstKnown (by decide)) ends

theorem ne_of_mark {c other : Char} {known : List Char}
    (listed : continuesIdentifier c = true ∨ c ∈ known)
    (apart : continuesIdentifier other = false ∧ other ∉ known) : c ≠ other := by
  rintro rfl
  rcases listed with continues | mark
  · rw [continues] at apart
    cases apart.1
  · exact apart.2 mark

/-- No empty brackets stand at the start of a written type. -/
theorem text_ne_cons_cons (type : TypeText) (rest : List Char) :
    type.text ≠ '[' :: ']' :: rest := by
  intro equality
  cases type with
  | path rooted qualifier name arguments =>
      obtain ⟨c, more, spelled, known⟩ := exists_head_path rooted qualifier name arguments
      rw [spelled] at equality
      exact ne_of_mark known (by decide) (List.cons.inj equality).1
  | slice element =>
      obtain ⟨c, more, spelled, known⟩ := element.exists_head
      rw [text, spelled, List.cons_append] at equality
      exact ne_of_mark known (by decide) (List.cons.inj (List.cons.inj equality).2).1
  | reference target => exact absurd (List.cons.inj equality).1 (by decide)

/-- No empty brackets stand at the end of a written type. -/
theorem text_ne_append : (type : TypeText) → (front : List Char) → type.text ≠ front ++ ['[', ']']
  | path rooted qualifier name arguments, front => by
      obtain ⟨before, c, ended, known⟩ := exists_last_path rooted qualifier name arguments
      intro equality
      have cut : before ++ [c] = (front ++ ['[']) ++ [']'] := by rw [← ended, equality]; simp
      exact ne_of_mark known (by decide) (List.cons.inj (List.append_inj' cut rfl).2).1
  | slice element, front => by
      obtain ⟨before, c, ended, known⟩ := element.exists_last
      intro equality
      have cut : ('[' :: before) ++ [c, ']'] = front ++ ['[', ']'] := by
        rw [← equality, text, ended]
        simp
      exact ne_of_mark known (by decide) (List.cons.inj (List.append_inj' cut rfl).2).1
  | reference target, front => by
      intro equality
      cases front with
      | nil => exact absurd (List.cons.inj equality).1 (by decide)
      | cons c front => exact text_ne_append target front (List.cons.inj equality).2

theorem dropSequenceMark?_text (type : TypeText) :
    TypeExpr.dropSequenceMark? type.text = none := by
  have start : afterStart? ['[', ']'] type.text = none := by
    rw [Option.eq_none_iff_forall_ne_some]
    exact fun rest found => type.text_ne_cons_cons rest (afterStart?_eq_some_iff.1 found)
  have stop : beforeEnd? ['[', ']'] type.text = none := by
    rw [Option.eq_none_iff_forall_ne_some]
    exact fun front found => type.text_ne_append front (beforeEnd?_eq_some_iff.1 found)
  simp [TypeExpr.dropSequenceMark?, start, stop]

theorem dropOptionMark?_text (type : TypeText) : TypeExpr.dropOptionMark? type.text = none := by
  have certain : '?' ∉ type.text := type.not_mem_text (by decide) (by decide)
  have start : afterStart? ['?'] type.text = none := by
    rw [Option.eq_none_iff_forall_ne_some]
    exact fun rest found => certain (by simp [afterStart?_eq_some_iff.1 found])
  have stop : beforeEnd? ['?'] type.text = none := by
    rw [Option.eq_none_iff_forall_ne_some]
    exact fun front found => certain (by simp [beforeEnd?_eq_some_iff.1 found])
  simp [TypeExpr.dropOptionMark?, start, stop]

/-- A written type shows that it is a declared type, unless it is a single name. -/
theorem isDeclared_text (type : TypeText) :
    TypeExpr.isDeclared type.text = true ∨ ∃ name, type = path false [] name [] := by
  have shown : ∀ c ∈ type.text, (c == '<' || c == ':' || c == '[' || c == '&') = true →
      TypeExpr.isDeclared type.text = true := fun c member mark =>
    List.any_eq_true.2 ⟨c, member, mark⟩
  match type with
  | path true _ _ _ => exact Or.inl (shown ':' (by simp [text, rootText]) rfl)
  | path false (first :: _) _ _ =>
      exact Or.inl (shown ':' (by simp [text, rootText, qualifierText]) rfl)
  | path false [] _ (first :: _) =>
      exact Or.inl (shown '<' (by simp [text, rootText, qualifierText, argumentsText]) rfl)
  | path false [] name [] => exact Or.inr ⟨name, rfl⟩
  | slice _ => exact Or.inl (shown '[' (by simp [text]) rfl)
  | reference _ => exact Or.inl (shown '&' (by simp [text]) rfl)

theorem isDeclared_name (name : PlainName) : TypeExpr.isDeclared name.text = false := by
  have continued := all_of_isName name.spelled
  rw [TypeExpr.isDeclared, List.any_eq_false]
  intro c member
  have other : ∀ {mark}, continuesIdentifier mark = false → c ≠ mark :=
    ne_of_continuesIdentifier (continued c member)
  simp only [Bool.or_eq_true, beq_iff_eq, not_or]
  exact ⟨⟨⟨other (by decide), other (by decide)⟩, other (by decide)⟩, other (by decide)⟩

end TypeText

end Source

namespace TypeExpr

open Source

/-- The names of the types that are known by what they hold. -/
def holderNames : List String := "Option" :: wrapperNames ++ sequenceNames ++ mapNames

/-- A declared type that is a single name stands for that name, unless it should hold something. -/
theorem ofTy_name {name : PlainName} (complete : name.ident.name ∉ holderNames) :
    ofTy (.path [] name.ident []) = .named name.ident.name := by
  have spelled : name.ident.spelling = name.ident.name := by
    simp [Ident.spelling, name.plain]
  simp only [holderNames, List.mem_append, List.mem_cons, not_or] at complete
  obtain ⟨⟨⟨optional, wrapper⟩, sequence⟩, map⟩ := complete
  simp [ofTy, ofPath, spelled, optional, wrapper, sequence, map]

/-- The word of a written type has the type expression of the declared type. -/
theorem ofWord_text {type : TypeText}
    (complete : ∀ name, type = .path false [] name [] → name.ident.name ∉ holderNames) :
    ofWord type.text = ofTy type.toTy := by
  have plain : ofWord type.text = ofPlainWord type.text := by
    fun_cases ofWord type.text with
    | case1 inner marked =>
        rw [type.trim_text, type.dropSequenceMark?_text] at marked
        cases marked
    | case2 unmarked inner maybe =>
        rw [type.trim_text, type.dropOptionMark?_text] at maybe
        cases maybe
    | case3 unmarked certain => rw [type.trim_text]
  have nonempty : type.text.isEmpty = false := by
    obtain ⟨c, rest, spelled, -⟩ := type.exists_head
    rw [spelled, List.isEmpty_cons]
  rw [plain, ofPlainWord, nonempty]
  rcases type.isDeclared_text with declared | ⟨name, rfl⟩
  · simp [declared, type.parse?_text]
  · have word : (TypeText.path false [] name []).text = name.text := by
      simp [TypeText.text, TypeText.rootText, TypeText.qualifierText, TypeText.argumentsText]
    rw [word, TypeText.isDeclared_name]
    simp [TypeText.toTy, TypeText.toTys, ofTy_name (complete name rfl), PlainName.text]

end TypeExpr

end DocApi
