import DocApi.Proofs.Annotation.TypeWords
import DocApi.Proofs.Schema.Types
import DocApi.Proofs.Source.Names

/-!
# Schema words

The schema word of a body or response is read as a type word, unless it carries a sequence marker.
Behind the marker it takes everything for the name of a model. The type word with the same marker
reads on there, and the two agree only where a model is all that is left.
-/

namespace DocApi

open Source

/-! ## Types that are references -/

theorem Source.Ident.Spelled.spelling {ident : Ident} (spelled : ident.Spelled) :
    ∀ c ∈ ident.spelling.toList, continuesIdentifier c = true ∨ c = '#' := by
  intro c member
  rw [Ident.spelling] at member
  split at member
  · rw [String.toList_append, List.mem_append] at member
    rcases member with mark | letter
    · obtain rfl | rfl : c = 'r' ∨ c = '#' := by simpa using mark
      · exact Or.inl (by decide)
      · exact Or.inr rfl
    · exact Or.inl (spelled c letter)
  · exact Or.inl (spelled c member)

theorem Source.Ident.Spelled.not_mem {ident : Ident} (spelled : ident.Spelled) {mark : Char}
    (other : continuesIdentifier mark = false ∧ mark ≠ '#') : mark ∉ ident.spelling.toList := by
  intro member
  rcases spelled.spelling mark member with letter | sign
  · rw [letter] at other
    cases other.1
  · exact other.2 sign

namespace Schema

theorem ref_injective {first second : String} (same : ref first = ref second) : first = second := by
  have addresses : referenceStart ++ first = referenceStart ++ second :=
    Option.some.inj (congrArg reference same)
  have letters := congrArg String.toList addresses
  rw [String.toList_append, String.toList_append] at letters
  exact String.toList_inj.1 (List.append_cancel_left letters)

theorem eq_of_ofName_eq_ref {name target : String} (refers : ofName name = ref target) :
    name = target := by
  rcases ofName_cases name with ⟨type, format, inline⟩ | own
  · rw [inline] at refers
    cases refers
  · exact ref_injective (own.symm.trans refers)

theorem ofName_eq_ref_iff (name : String) :
    ofName name = ref name ↔ primitive? name = none ∧ wellKnown? name = none := by
  rw [ofName]
  cases primitive? name with
  | some found =>
      constructor
      · intro refers
        cases refers
      · rintro ⟨⟨⟩, -⟩
  | none =>
      cases known : wellKnown? name with
      | none => simp
      | some schema =>
          obtain ⟨format, rfl⟩ := wellKnown?_eq_some known
          constructor
          · intro refers
            cases refers
          · rintro ⟨-, ⟨⟩⟩

theorem eq_ref_of_orNull {schema : Schema} {target : String}
    (refers : schema.orNull = ref target) : schema = ref target := by
  rw [orNull] at refers
  split at refers
  · exact refers
  · cases congrArg nullable refers

/-- A path refers to its own name or to what one of its arguments refers to. -/
theorem eq_or_exists_of_ofPath {qualifier : List String} {name target : String}
    {arguments : List TypeExpr}
    (refers : ofType (.ofPath qualifier name arguments) = ref target) :
    name = target ∨ ∃ argument ∈ arguments, ofType argument = ref target := by
  have first : ofType (arguments.headD .unsupported) = ref target →
      ∃ argument ∈ arguments, ofType argument = ref target := by
    intro refers
    cases arguments with
    | nil => cases refers
    | cons inner rest => exact ⟨inner, List.mem_cons_self, refers⟩
  unfold TypeExpr.ofPath at refers
  split at refers
  · split at refers
    · rename_i inner rest
      exact Or.inr ⟨inner, List.mem_cons_self, eq_ref_of_orNull refers⟩
    · cases refers
  · split at refers
    · exact Or.inr (first refers)
    · split at refers
      · cases refers
      · split at refers
        · cases refers
        · split at refers
          · exact Or.inl (eq_of_ofName_eq_ref refers)
          · split at refers
            · exact Or.inl (eq_of_ofName_eq_ref refers)
            · rw [ofType] at refers
              cases known : wellKnown? name with
              | none =>
                  rw [known] at refers
                  cases refers
              | some schema =>
                  obtain ⟨format, rfl⟩ := wellKnown?_eq_some known
                  rw [known] at refers
                  cases refers

theorem exists_of_mem_ofTys {types : List Ty} {argument : TypeExpr}
    (member : argument ∈ TypeExpr.ofTys types) : ∃ type ∈ types, TypeExpr.ofTy type = argument := by
  induction types with
  | nil => cases member
  | cons type types induction =>
      rw [TypeExpr.ofTys] at member
      rcases List.mem_cons.1 member with rfl | later
      · exact ⟨type, List.mem_cons_self, rfl⟩
      · obtain ⟨found, inside, same⟩ := induction later
        exact ⟨found, List.mem_cons_of_mem type inside, same⟩

/-- A declared type that is a reference has an identifier as its target. -/
theorem exists_ident_of_ofTy {p : Ident → Prop} {type : Ty} {target : String} (holds : type.Holds p)
    (refers : ofType (.ofTy type) = ref target) : ∃ ident, p ident ∧ ident.spelling = target := by
  induction holds with
  | @path qualifier name arguments before own inside induction =>
      rw [TypeExpr.ofTy] at refers
      rcases eq_or_exists_of_ofPath refers with same | ⟨argument, member, inner⟩
      · exact ⟨name, own, same⟩
      · obtain ⟨found, listed, rfl⟩ := exists_of_mem_ofTys member
        exact induction found listed inner
  | reference inside induction =>
      rw [TypeExpr.ofTy] at refers
      exact induction refers
  | parenthesized inside induction =>
      rw [TypeExpr.ofTy] at refers
      exact induction refers
  | array inside induction =>
      rw [TypeExpr.ofTy] at refers
      cases refers
  | slice inside induction =>
      rw [TypeExpr.ofTy] at refers
      cases refers
  | other =>
      rw [TypeExpr.ofTy] at refers
      cases refers

/-- The words that are references: in the syntax of declared types, the target is an identifier, and
otherwise it is what the markers leave of the word. -/
theorem cases_of_ofWord {word : List Char} {target : String}
    (refers : ofType (.ofWord word) = ref target) :
    (∃ ident : Ident, ident.Spelled ∧ ident.spelling = target) ∨
      target.toList.length ≤ (trim word).length := by
  fun_induction TypeExpr.ofWord word with
  | case1 word inner marked induction => cases refers
  | case2 word unmarked inner maybe induction =>
      refine (induction (eq_ref_of_orNull refers)).imp_right fun shorter => ?_
      have lost := TypeExpr.length_of_dropOptionMark? maybe
      have trimmed := length_trim_le inner
      omega
  | case3 word unmarked plain =>
      unfold TypeExpr.ofPlainWord at refers
      split at refers
      · cases refers
      · split at refers
        · split at refers
          · rename_i type read
            exact Or.inl (exists_ident_of_ofTy (Ty.spelled_of_parse? read) refers)
          · cases refers
        · rw [← eq_of_ofName_eq_ref refers, String.toList_ofList]
          exact Or.inr le_rfl

end Schema

/-! ## Words for models -/

/-- Whether a trimmed word is the name of a model as it stands: it has no markers and none of the
signs of declared types, and it is no primitive or well-known type. -/
structure ModelWord (word : List Char) : Prop where
  nonempty : word ≠ []
  undeclared : TypeExpr.isDeclared word = false
  unmarked : TypeExpr.dropOptionMark? word = none
  primitive : primitive? (String.ofList word) = none
  wellKnown : wellKnown? (String.ofList word) = none

namespace TypeExpr

theorem mem_of_dropSequenceMark? {word inner : List Char}
    (marked : dropSequenceMark? word = some inner) : '[' ∈ word := by
  rcases Option.or_eq_some_iff.1 marked with start | ⟨-, stop⟩
  · simp [afterStart?_eq_some_iff.1 start]
  · simp [beforeEnd?_eq_some_iff.1 stop]

theorem mem_of_dropOptionMark? {word inner : List Char}
    (marked : dropOptionMark? word = some inner) : '?' ∈ word := by
  rcases Option.or_eq_some_iff.1 marked with start | ⟨-, stop⟩
  · simp [afterStart?_eq_some_iff.1 start]
  · simp [beforeEnd?_eq_some_iff.1 stop]

theorem isDeclared_eq_true_iff {word : List Char} :
    isDeclared word = true ↔ ∃ c ∈ word, c ∈ ['<', ':', '[', '&'] := by
  simp [isDeclared, or_assoc]

/-- Nothing can be read of a blank word. -/
theorem ofWord_of_blank {word : List Char} (blank : trim word = []) :
    ofWord word = .unsupported := by
  fun_cases ofWord word with
  | case1 inner marked =>
      rw [blank] at marked
      exact absurd (mem_of_dropSequenceMark? marked) List.not_mem_nil
  | case2 unmarked inner maybe =>
      rw [blank] at maybe
      exact absurd (mem_of_dropOptionMark? maybe) List.not_mem_nil
  | case3 unmarked certain =>
      rw [blank]
      rfl

theorem dropSequenceMark?_of_undeclared {word : List Char} (undeclared : isDeclared word = false) :
    dropSequenceMark? word = none := by
  rw [Option.eq_none_iff_forall_ne_some]
  intro inner marked
  have declared : isDeclared word = true :=
    isDeclared_eq_true_iff.2 ⟨'[', mem_of_dropSequenceMark? marked, by decide⟩
  rw [declared] at undeclared
  cases undeclared

theorem trim_of_isName {name : List Char} (named : isName name = true) : trim name = name := by
  have letters := all_of_isName named
  obtain ⟨c, rest, rfl⟩ : ∃ c rest, name = c :: rest := by
    cases name with
    | nil => cases named
    | cons c rest => exact ⟨c, rest, rfl⟩
  refine trim_eq_self (isBlank_of_continuesIdentifier (letters c List.mem_cons_self)) ?_
  refine ⟨(c :: rest).dropLast, (c :: rest).getLast (List.cons_ne_nil c rest),
    (List.dropLast_append_getLast _).symm, ?_⟩
  exact isBlank_of_continuesIdentifier (letters _ (List.getLast_mem _))

/-- A sequence marker on either side of a name leaves the name. -/
theorem dropSequenceMark?_of_isName {name word : List Char} (named : isName name = true)
    (marked : word = ['[', ']'] ++ name ∨ word = name ++ ['[', ']']) :
    dropSequenceMark? word = some name := by
  rcases marked with rfl | rfl
  · rw [dropSequenceMark?, afterStart?_eq_some_iff.2 rfl, Option.some_or]
  · have start : afterStart? ['[', ']'] (name ++ ['[', ']']) = none := by
      rw [Option.eq_none_iff_forall_ne_some]
      intro rest found
      have front := afterStart?_eq_some_iff.1 found
      cases name with
      | nil => cases named
      | cons c text =>
          have bracket : c = '[' := (List.cons.inj front).1
          have letter := all_of_isName named c List.mem_cons_self
          exact ne_of_continuesIdentifier letter (by decide) bracket
    rw [dropSequenceMark?, start, Option.none_or, beforeEnd?_eq_some_iff.2 rfl]

end TypeExpr

namespace Schema

/-- In the syntax of declared types no word is a reference to itself. -/
theorem ofTy_ne_ref {word : List Char} {type : Ty} (read : Ty.parse? word = some type)
    (declared : TypeExpr.isDeclared word = true) :
    ofType (.ofTy type) ≠ ref (String.ofList word) := by
  intro refers
  obtain ⟨ident, spelled, same⟩ := exists_ident_of_ofTy (Ty.spelled_of_parse? read) refers
  obtain ⟨sign, member, known⟩ := TypeExpr.isDeclared_eq_true_iff.1 declared
  have foreign : ∀ c ∈ ['<', ':', '[', '&'], continuesIdentifier c = false ∧ c ≠ '#' := by
    simp [continuesIdentifier]
  refine spelled.not_mem (foreign sign known) ?_
  rwa [same, String.toList_ofList]

theorem ofPlainWord_eq_ref_iff {word : List Char}
    (certain : TypeExpr.dropOptionMark? word = none) :
    ofType (.ofPlainWord word) = ref (String.ofList word) ↔ ModelWord word := by
  unfold TypeExpr.ofPlainWord
  split
  · rename_i empty
    constructor
    · intro refers
      cases refers
    · intro named
      exact absurd (List.isEmpty_iff.1 empty) named.nonempty
  · rename_i filled
    split
    · rename_i declared
      constructor
      · intro refers
        split at refers
        · rename_i type read
          exact absurd refers (ofTy_ne_ref read declared)
        · cases refers
      · intro named
        rw [named.undeclared] at declared
        cases declared
    · rename_i undeclared
      rw [ofType, ofName_eq_ref_iff]
      constructor
      · rintro ⟨primitive, wellKnown⟩
        exact ⟨fun empty => filled (List.isEmpty_iff.2 empty), by simpa using undeclared, certain,
          primitive, wellKnown⟩
      · exact fun named => ⟨named.primitive, named.wellKnown⟩

/-- A type word is a reference to itself exactly if it is the name of a model. -/
theorem ofWord_eq_ref_iff (word : List Char) :
    ofType (.ofWord word) = ref (String.ofList (trim word)) ↔ ModelWord (trim word) := by
  fun_cases TypeExpr.ofWord word with
  | case1 inner marked =>
      constructor
      · intro refers
        cases refers
      · intro named
        rw [TypeExpr.dropSequenceMark?_of_undeclared named.undeclared] at marked
        cases marked
  | case2 unmarked inner maybe =>
      constructor
      · intro refers
        rcases cases_of_ofWord (eq_ref_of_orNull refers) with ⟨ident, spelled, same⟩ | shorter
        · refine absurd (TypeExpr.mem_of_dropOptionMark? maybe) ?_
          rw [← String.toList_ofList (l := trim word), ← same]
          exact spelled.not_mem (by decide)
        · rw [String.toList_ofList] at shorter
          have lost := TypeExpr.length_of_dropOptionMark? maybe
          have trimmed := length_trim_le inner
          omega
      · intro named
        rw [named.unmarked] at maybe
        cases maybe
  | case3 unmarked certain => exact ofPlainWord_eq_ref_iff certain

/-! ## Schema words and type words -/

section Tokens

variable {token : String} {element : List Char}

theorem ofToken_of_unmarked (unmarked : TypeExpr.dropSequenceMark? (trim token.toList) = none) :
    ofToken token = ofWord token := by
  rw [ofToken, unmarked]

theorem ofToken_of_marked
    (marked : TypeExpr.dropSequenceMark? (trim token.toList) = some element) :
    ofToken token =
      .array (if trim element = [] then none else some (.ref (String.ofList (trim element)))) := by
  rw [ofToken, marked]
  by_cases blank : trim element = [] <;> simp [blank]

theorem ofWord_of_marked
    (marked : TypeExpr.dropSequenceMark? (trim token.toList) = some element) :
    ofWord token = .array (ofType (.ofWord element)).nonEmpty? := by
  have sequence : TypeExpr.ofWord token.toList = .sequence (.ofWord element) := by
    rw [TypeExpr.ofWord]
    split
    · rename_i inner found
      rw [Option.some.inj (marked.symm.trans found)]
    · rename_i unmarked
      rw [marked] at unmarked
      cases unmarked
  rw [ofWord, sequence, ofType]

theorem array_injective {first second : Option Schema} (same : array first = array second) :
    first = second :=
  congrArg items same

theorem nonEmpty?_eq_some_ref_iff (schema : Schema) (name : String) :
    some (ref name) = schema.nonEmpty? ↔ schema = ref name := by
  constructor
  · intro kept
    exact (nonEmpty?_eq_some kept.symm).1.symm
  · rintro rfl
    rfl

/-- Behind a sequence marker, a schema word agrees with the type word if nothing is left or the name
of a model is. -/
theorem ofToken_eq_ofWord_of_marked_iff
    (marked : TypeExpr.dropSequenceMark? (trim token.toList) = some element) :
    ofToken token = ofWord token ↔ trim element = [] ∨ ModelWord (trim element) := by
  rw [ofToken_of_marked marked, ofWord_of_marked marked]
  by_cases blank : trim element = []
  · have nothing : (ofType (.ofWord element)).nonEmpty? = none := by
      rw [TypeExpr.ofWord_of_blank blank]
      rfl
    simp [blank, nothing]
  · rw [if_neg blank, ← ofWord_eq_ref_iff]
    constructor
    · intro same
      exact Or.inr ((nonEmpty?_eq_some_ref_iff _ _).1 (array_injective same))
    · rintro (empty | refers)
      · exact absurd empty blank
      · rw [(nonEmpty?_eq_some_ref_iff _ _).2 refers]

end Tokens

end Schema

/-- A schema word `[]Name` or `Name[]` is an array of references to `Name`. Any schema word is read
as the type word that it is, unless it carries a sequence marker and the marker leaves something
else than the name of a model: then it is an array of references to all that is left, while the type
word is an array of what this stands for. -/
theorem schema_of_token (token : String) :
    (∀ name, isName name = true →
      trim token.toList = ['[', ']'] ++ name ∨ trim token.toList = name ++ ['[', ']'] →
      Schema.ofToken token = .array (some (.ref (String.ofList name)))) ∧
    (Schema.ofToken token = Schema.ofWord token ↔
      ∀ element, TypeExpr.dropSequenceMark? (trim token.toList) = some element →
        trim element = [] ∨ ModelWord (trim element)) ∧
    ∀ element, TypeExpr.dropSequenceMark? (trim token.toList) = some element →
      trim element ≠ [] →
      Schema.ofToken token = .array (some (.ref (String.ofList (trim element)))) ∧
        Schema.ofWord token = .array (Schema.ofWord (String.ofList element)).nonEmpty? := by
  refine ⟨?_, ?_, ?_⟩
  · intro name named marked
    have left := TypeExpr.dropSequenceMark?_of_isName named marked
    have filled : name ≠ [] := by
      rintro rfl
      cases named
    rw [Schema.ofToken_of_marked left, TypeExpr.trim_of_isName named, if_neg filled]
  · cases found : TypeExpr.dropSequenceMark? (trim token.toList) with
    | none =>
        refine ⟨?_, fun _ => Schema.ofToken_of_unmarked found⟩
        rintro - element ⟨⟩
    | some left =>
        rw [Schema.ofToken_eq_ofWord_of_marked_iff found]
        constructor
        · rintro agrees element ⟨⟩
          exact agrees
        · exact fun agrees => agrees left rfl
  · intro element marked filled
    refine ⟨?_, ?_⟩
    · rw [Schema.ofToken_of_marked marked, if_neg filled]
    · rw [Schema.ofWord_of_marked marked, Schema.ofWord, String.toList_ofList]

/-- An array of models and an array of arrays of models; the latter is taken for an array of
references to a model with brackets in its name. -/
theorem schema_of_nestedToken :
    Schema.ofToken "[]User" = .array (some (.ref "User")) ∧
      Schema.ofToken "[][]User" = .array (some (.ref "[]User")) ∧
      Schema.ofWord "[][]User" = .array (some (.array (some (.ref "User")))) ∧
      Schema.ofToken "[][]User" ≠ Schema.ofWord "[][]User" := by
  have marked : TypeExpr.dropSequenceMark? (trim "[][]User".toList) = some "[]User".toList := by
    decide
  have filled : trim "[]User".toList ≠ [] := by decide
  obtain ⟨-, agrees, behind⟩ := schema_of_token "[][]User"
  obtain ⟨taken, word⟩ := behind _ marked filled
  have inner : (Schema.ofWord "[]User").nonEmpty? = some (.array (some (.ref "User"))) := by
    with_unfolding_all rfl
  refine ⟨?_, taken, word.trans (congrArg Schema.array inner), ?_⟩
  · exact (schema_of_token "[]User").1 "User".toList (by decide) (Or.inl (by decide))
  · intro same
    rcases agrees.1 same _ marked with blank | named
    · exact filled blank
    · exact absurd named.undeclared (by decide)

end DocApi
