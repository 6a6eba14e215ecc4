import DocApi.Proofs.Text
import DocApi.Source.Naming
import Mathlib.Algebra.Ring.Nat

/-!
# Naming rules, character by character

A rule takes a field name apart at its underscores and puts the words together again. Read
character by character, the same rules treat every underscore by itself. Both readings agree under
six of the eight rules. The two rules with hyphens drop the underscores that part no words, and so
they agree exactly on the names that have none of these.
-/

namespace DocApi.Source

/-! ## Field names -/

/-- The characters of plain field names: small letters, digits and underscores. -/
def isFieldChar (c : Char) : Bool := c.isLower || c.isDigit || c == '_'

theorem ascii_of_isFieldChar {c : Char} (plain : isFieldChar c = true) : c.toNat < 0x80 := by
  rw [isFieldChar, Bool.or_eq_true, Bool.or_eq_true, beq_iff_eq, isLower_iff, isDigit_iff] at plain
  rcases plain with (letter | digit) | rfl
  · omega
  · omega
  · decide

/-- Plain characters are in lower case, and upper case is undone by lower case. -/
theorem toLower_of_isFieldChar {c : Char} (plain : isFieldChar c = true) :
    c.toLower = c ∧ c.toUpper.toLower = c := by
  have all : ∀ code < 0x80, isFieldChar (Char.ofNat code) = true →
      (Char.ofNat code).toLower = Char.ofNat code ∧
        (Char.ofNat code).toUpper.toLower = Char.ofNat code := by
    decide
  have own := all c.toNat (ascii_of_isFieldChar plain)
  rw [Char.ofNat_toNat] at own
  exact own plain

theorem upperChar_of_ascii {c : Char} (ascii : c.toNat < 0x80) : upperChar c = [c.toUpper] := by
  rw [upperChar, if_pos ascii]

theorem upperText_of_ascii {text : List Char} (ascii : ∀ c ∈ text, c.toNat < 0x80) :
    upperText text = text.map Char.toUpper := by
  induction text with
  | nil => rfl
  | cons c text induction =>
      obtain ⟨own, others⟩ := List.forall_mem_cons.1 ascii
      rw [List.map_cons, ← induction others, upperText, List.flatMap_cons, upperChar_of_ascii own]
      rfl

theorem lowerText_of_plain {text : List Char} (plain : ∀ c ∈ text, isFieldChar c = true) :
    lowerText text = text := by
  have kept : ∀ before, lowerFrom before text = text := by
    induction text with
    | nil => exact fun _ => rfl
    | cons c text induction =>
        intro before
        obtain ⟨own, others⟩ := List.forall_mem_cons.1 plain
        have sigma : c ≠ 'Σ' := by
          rintro rfl
          cases own
        have lower : lowerChar c = [c] := by
          rw [lowerChar, if_pos (ascii_of_isFieldChar own), (toLower_of_isFieldChar own).1]
        simp [lowerFrom, sigma, lower, induction others]
  exact kept []

namespace NamingRule

/-! ## The rules -/

/-- The name of a rule. -/
def name : NamingRule → String
  | .lower => "lowercase"
  | .upper => "UPPERCASE"
  | .pascal => "PascalCase"
  | .camel => "camelCase"
  | .snake => "snake_case"
  | .screamingSnake => "SCREAMING_SNAKE_CASE"
  | .kebab => "kebab-case"
  | .screamingKebab => "SCREAMING-KEBAB-CASE"

theorem ofName?_name (rule : NamingRule) : ofName? rule.name = some rule := by
  cases rule <;> rfl

/-- Drops every underscore and puts the character after it in upper case, and so the first one when
it is `raised`. -/
def raiseWords (raised : Bool) : List Char → List Char
  | [] => []
  | c :: field =>
      if c = '_' then raiseWords true field
      else (if raised then c.toUpper else c) :: raiseWords false field

/-- Puts the first character in lower case. -/
def lowerFirst : List Char → List Char
  | [] => []
  | c :: name => c.toLower :: name

/-- Turns an underscore into a hyphen. -/
def hyphen (c : Char) : Char := if c = '_' then '-' else c

/-- The name of a field under a rule, read off character by character. -/
def spelled (rule : NamingRule) (field : List Char) : List Char :=
  match rule with
  | .lower | .snake => field
  | .upper | .screamingSnake => field.map Char.toUpper
  | .pascal => raiseWords true field
  | .camel => lowerFirst (raiseWords true field)
  | .kebab => field.map hyphen
  | .screamingKebab => (field.map hyphen).map Char.toUpper

/-! ## Words -/

/-- The pieces between underscores. -/
def pieces (field : List Char) : List (List Char) := piecesBy (· == '_') field

theorem exists_pieces (field : List Char) : ∃ piece rest, pieces field = piece :: rest :=
  List.exists_cons_of_ne_nil (piecesBy_ne_nil field)

theorem pieces_cons {c : Char} (word : c ≠ '_') {field piece : List Char} {rest : List (List Char)}
    (cut : pieces field = piece :: rest) : pieces (c :: field) = (c :: piece) :: rest :=
  piecesBy_cons (by simpa using word) cut

theorem pieces_underscore (field : List Char) : pieces ('_' :: field) = [] :: pieces field := rfl

theorem words_cons {c : Char} (word : c ≠ '_') {field piece : List Char} {rest : List (List Char)}
    (cut : pieces field = piece :: rest) :
    words (c :: field) = (c :: piece) :: rest.filter (!·.isEmpty) := by
  have cons := pieces_cons word cut
  rw [pieces] at cons
  rw [words, cons, List.filter_cons_of_pos rfl]

/-- Empty pieces make no difference to the words with a capital. -/
theorem flatMap_capitalized_filter (texts : List (List Char)) :
    (texts.filter (!·.isEmpty)).flatMap capitalized = texts.flatMap capitalized := by
  induction texts with
  | nil => rfl
  | cons text texts induction =>
      cases text with
      | nil => exact induction
      | cons c text =>
          rw [List.filter_cons_of_pos rfl, List.flatMap_cons, List.flatMap_cons, induction]

theorem raiseWords_eq {field : List Char} (ascii : ∀ c ∈ field, c.toNat < 0x80) :
    raiseWords true field = (pieces field).flatMap capitalized ∧
      ∀ piece rest, pieces field = piece :: rest →
        raiseWords false field = piece ++ rest.flatMap capitalized := by
  induction field with
  | nil =>
      refine ⟨rfl, fun piece rest cut => ?_⟩
      obtain ⟨rfl, rfl⟩ := List.cons_eq_cons.1 cut
      rfl
  | cons c field induction =>
      obtain ⟨own, others⟩ := List.forall_mem_cons.1 ascii
      obtain ⟨raised, kept⟩ := induction others
      by_cases word : c = '_'
      · subst word
        refine ⟨?_, fun piece rest cut => ?_⟩
        · rw [pieces_underscore, raiseWords, if_pos rfl, raised]
          rfl
        · obtain ⟨rfl, rfl⟩ := List.cons_eq_cons.1 cut
          rw [raiseWords, if_pos rfl, raised]
          rfl
      · obtain ⟨piece, rest, cut⟩ := exists_pieces field
        have later := kept piece rest cut
        rw [pieces_cons word cut, raiseWords, raiseWords, if_neg word, if_neg word, later]
        refine ⟨?_, fun first others split => ?_⟩
        · rw [List.flatMap_cons, capitalized, upperChar_of_ascii own]
          rfl
        · obtain ⟨rfl, rfl⟩ := List.cons_eq_cons.1 split
          rfl

/-! ## Hyphens -/

/-- An underscore stands at an end of the name or next to another one. -/
def Crowded (field : List Char) : Prop :=
  ['_'] <+: field ∨ ['_'] <:+ field ∨ ['_', '_'] <:+: field

instance (field : List Char) : Decidable (Crowded field) := inferInstanceAs (Decidable (_ ∨ _ ∨ _))

/-- A piece is empty where two underscores meet, one on either side of the name included. -/
theorem nil_mem_pieces_iff (field : List Char) :
    ([] ∈ pieces field ↔ ['_', '_'] <:+: '_' :: (field ++ ['_'])) ∧
      ([] ∈ (pieces field).tail ↔ ['_', '_'] <:+: field ++ ['_']) := by
  induction field with
  | nil =>
      have short : ¬ ['_', '_'] <:+: ['_'] := fun inside => by simpa using inside.length_le
      simpa [pieces, piecesBy] using short
  | cons c field induction =>
      obtain ⟨whole, later⟩ := induction
      by_cases word : c = '_'
      · subst word
        rw [pieces_underscore]
        exact ⟨by simp [List.infix_cons_iff], by simpa using whole⟩
      · obtain ⟨piece, rest, cut⟩ := exists_pieces field
        rw [cut, List.tail_cons] at later
        rw [pieces_cons word cut]
        simp [List.infix_cons_iff, List.cons_prefix_cons, later, Ne.symm word]

theorem crowded_iff {field : List Char} (nonempty : field ≠ []) :
    Crowded field ↔ [] ∈ pieces field := by
  have atStart : ['_', '_'] <+: '_' :: (field ++ ['_']) ↔ ['_'] <+: field := by
    obtain ⟨c, field, rfl⟩ := List.exists_cons_of_ne_nil nonempty
    simp [List.cons_prefix_cons]
  have atEnd : ['_', '_'] <:+ field ++ ['_'] ↔ ['_'] <:+ field := by
    constructor
    · rintro ⟨front, whole⟩
      have longer : front ++ ['_'] ++ ['_'] = field ++ ['_'] := by
        rw [← whole, List.append_assoc, List.singleton_append]
      exact ⟨front, List.append_cancel_right longer⟩
    · rintro ⟨front, rfl⟩
      exact ⟨front, by simp⟩
  rw [(nil_mem_pieces_iff field).1, List.infix_cons_iff, List.infix_concat_iff, atStart, atEnd,
    Crowded]

theorem map_hyphen_eq (field : List Char) :
    field.map hyphen = ['-'].intercalate (pieces field) := by
  induction field with
  | nil => rfl
  | cons c field induction =>
      obtain ⟨piece, rest, cut⟩ := exists_pieces field
      rw [List.map_cons, induction]
      by_cases word : c = '_'
      · subst word
        rw [pieces_underscore, List.intercalate_cons_of_ne_nil (by simp [cut])]
        rfl
      · rw [pieces_cons word cut, cut, hyphen, if_neg word, List.intercalate_cons_cons_left]

/-- The words and the hyphens between them stand in the name in their order. -/
theorem hyphenated_sublist (field : List Char) :
    (hyphenated field).Sublist (field.map hyphen) := by
  have fewer : ∀ texts : List (List Char),
      (['-'].intercalate (texts.filter (!·.isEmpty))).Sublist (['-'].intercalate texts) := by
    intro texts
    induction texts with
    | nil => exact List.Sublist.refl _
    | cons text texts induction =>
        by_cases last : texts = []
        · subst last
          cases text with
          | nil => exact List.Sublist.refl _
          | cons c text => exact List.Sublist.refl _
        · rw [List.intercalate_cons_of_ne_nil last]
          cases text with
          | nil => exact induction.trans (List.sublist_append_right _ _)
          | cons c text =>
              rw [List.filter_cons_of_pos rfl]
              by_cases alone : texts.filter (!·.isEmpty) = []
              · rw [alone, List.intercalate_singleton, List.append_assoc]
                exact List.sublist_append_left _ _
              · rw [List.intercalate_cons_of_ne_nil alone]
                exact induction.append_left _
  rw [map_hyphen_eq]
  exact fewer (pieces field)

theorem length_intercalate (texts : List (List Char)) :
    (['-'].intercalate texts).length = (texts.map fun text => text.length + 1).sum - 1 := by
  induction texts with
  | nil => rfl
  | cons text texts induction =>
      cases texts with
      | nil => simp
      | cons next texts =>
          simp only [List.intercalate_cons_cons, List.length_append, List.length_singleton,
            induction, List.map_cons, List.sum_cons]
          omega

/-- The pieces are the words and the empty pieces. -/
theorem sum_length_pieces (field : List Char) :
    ((pieces field).map fun piece => piece.length + 1).sum =
      ((words field).map fun word => word.length + 1).sum + (pieces field).count [] := by
  have split : ∀ texts : List (List Char), (texts.map fun text => text.length + 1).sum =
      ((texts.filter (!·.isEmpty)).map fun text => text.length + 1).sum + texts.count [] := by
    intro texts
    induction texts with
    | nil => rfl
    | cons text texts induction =>
        rw [List.map_cons, List.sum_cons, induction]
        cases text with
        | nil =>
            rw [List.filter_cons_of_neg (by simp), List.count_cons_self, List.length_nil]
            omega
        | cons c text =>
            rw [List.filter_cons_of_pos rfl, List.count_cons_of_ne (by simp), List.map_cons,
              List.sum_cons]
            omega
  exact split (pieces field)

/-- There is no hyphen for the underscore at an empty piece. -/
theorem length_hyphenated_lt {field : List Char} (crowded : Crowded field) :
    (hyphenated field).length < field.length := by
  have nonempty : field ≠ [] := by
    rintro rfl
    revert crowded
    decide
  have whole := congrArg List.length (map_hyphen_eq field)
  rw [List.length_map, length_intercalate, sum_length_pieces] at whole
  have dropped : 0 < (pieces field).count [] :=
    List.count_pos_iff.2 ((crowded_iff nonempty).1 crowded)
  have some := List.length_pos_iff.2 nonempty
  rw [hyphenated, length_intercalate]
  omega

theorem hyphenated_eq_iff (field : List Char) :
    hyphenated field = field.map hyphen ↔ ¬ Crowded field := by
  constructor
  · intro same crowded
    have shorter := length_hyphenated_lt crowded
    rw [same, List.length_map] at shorter
    exact lt_irrefl _ shorter
  · intro spaced
    by_cases nonempty : field = []
    · rw [nonempty]
      rfl
    · rw [crowded_iff nonempty] at spaced
      have kept : words field = pieces field :=
        List.filter_eq_self.2 fun piece member => by
          cases piece with
          | nil => exact absurd member spaced
          | cons c piece => rfl
      rw [hyphenated, kept, map_hyphen_eq]

/-! ## Both readings of a rule -/

section Plain

variable {field : List Char} (plain : ∀ c ∈ field, isFieldChar c = true)
include plain

theorem upperText_of_plain : upperText field = field.map Char.toUpper :=
  upperText_of_ascii fun c member => ascii_of_isFieldChar (plain c member)

theorem pascal_eq : (words field).flatMap capitalized = raiseWords true field := by
  have raised := (raiseWords_eq fun c member => ascii_of_isFieldChar (plain c member)).1
  rw [raised]
  exact flatMap_capitalized_filter (pieces field)

/-- The first word is left in lower case, or put back. -/
theorem camel_eq : camel.apply field = lowerFirst (raiseWords true field) := by
  induction field with
  | nil => rfl
  | cons c field induction =>
      obtain ⟨own, others⟩ := List.forall_mem_cons.1 plain
      by_cases word : c = '_'
      · subst word
        exact induction others
      · obtain ⟨piece, rest, cut⟩ := exists_pieces field
        have later := (raiseWords_eq fun d member => ascii_of_isFieldChar (others d member)).2
          piece rest cut
        rw [apply, words_cons word cut, raiseWords, if_neg word, if_pos rfl, lowerFirst, later,
          (toLower_of_isFieldChar own).2]
        change c :: piece ++ _ = _
        rw [flatMap_capitalized_filter, List.cons_append]

theorem screamingKebab_eq_iff :
    upperText (hyphenated field) = (field.map hyphen).map Char.toUpper ↔ ¬ Crowded field := by
  have ascii : ∀ c ∈ hyphenated field, c.toNat < 0x80 := by
    intro c member
    obtain ⟨d, listed, rfl⟩ := List.mem_map.1 ((hyphenated_sublist field).subset member)
    rw [hyphen]
    split
    · decide
    · exact ascii_of_isFieldChar (plain d listed)
  rw [upperText_of_ascii ascii, ← hyphenated_eq_iff]
  refine ⟨fun same => ?_, congrArg (List.map Char.toUpper)⟩
  have lengths := congrArg List.length same
  rw [List.length_map, List.length_map] at lengths
  exact (hyphenated_sublist field).eq_of_length lengths

end Plain

end NamingRule

/-- Under every rule, a plain field name is renamed as the rule says character by character, but for
the rules with hyphens: these do so exactly if no underscore stands at an end of the name or next to
another one. -/
theorem renamed_eq_spelled_iff (rule : NamingRule) {field : String}
    (plain : ∀ c ∈ field.toList, isFieldChar c = true) :
    renamed rule.name field = String.ofList (rule.spelled field.toList) ↔
      (rule = .kebab ∨ rule = .screamingKebab → ¬ NamingRule.Crowded field.toList) := by
  rw [renamed, NamingRule.ofName?_name, String.ofList_inj]
  by_cases hyphens : rule = .kebab ∨ rule = .screamingKebab
  · have agree : rule.apply field.toList = rule.spelled field.toList ↔
        ¬ NamingRule.Crowded field.toList := by
      rcases hyphens with rfl | rfl
      · exact NamingRule.hyphenated_eq_iff field.toList
      · exact NamingRule.screamingKebab_eq_iff plain
    rw [agree, forall_prop_of_true hyphens]
  · have agree : rule.apply field.toList = rule.spelled field.toList := by
      cases rule with
      | lower => exact lowerText_of_plain plain
      | upper => exact NamingRule.upperText_of_plain plain
      | pascal => exact NamingRule.pascal_eq plain
      | camel => exact NamingRule.camel_eq plain
      | snake => rfl
      | screamingSnake => exact NamingRule.upperText_of_plain plain
      | kebab => exact absurd (Or.inl rfl) hyphens
      | screamingKebab => exact absurd (Or.inr rfl) hyphens
    exact ⟨fun _ kind => absurd kind hyphens, fun _ => agree⟩

/-- With hyphens, the underscore at the end of a name is lost. -/
theorem renamed_trailing_underscore :
    (∀ c ∈ "type_".toList, isFieldChar c = true) ∧
      renamed NamingRule.kebab.name "type_" ≠
        String.ofList (NamingRule.kebab.spelled "type_".toList) := by
  have plain : ∀ c ∈ "type_".toList, isFieldChar c = true := by simp [isFieldChar]
  have crowded : NamingRule.Crowded "type_".toList := by decide
  exact ⟨plain, fun same => (renamed_eq_spelled_iff .kebab plain).1 same (Or.inl rfl) crowded⟩

end DocApi.Source
