import DocApi.Proofs.Source.Lexing
import DocApi.Source.Rule

/-!
# Types as they are written

A type that is built from paths, type arguments, slices and references has one written form. Its
text is read as trees that can be told from the type alone, but for the last mark: whether a mark
follows it at once depends on where the type stands.
-/

namespace DocApi.Source

/-- A plain name: an identifier that is not raw and no keyword. -/
structure PlainName where
  ident : Ident
  plain : ident.raw = false
  free : ident.isFree = true
  spelled : isName ident.name.toList = true

/-- A plain name as it is written. -/
def PlainName.text (name : PlainName) : List Char := name.ident.name.toList

/-- A type as it is written. -/
inductive TypeText where
  /-- A path such as `Vec<u8>`, `time::Date` or, when it is rooted, `::time::Date`. -/
  | path (rooted : Bool) (qualifier : List PlainName) (name : PlainName)
      (arguments : List TypeText)
  /-- `[element]` -/
  | slice (element : TypeText)
  /-- `&target` -/
  | reference (target : TypeText)

namespace TypeText

/-! ## Text, trees and type -/

/-- The start of a path. -/
def rootText (rooted : Bool) : List Char := if rooted then [':', ':'] else []

/-- The words before the last one of a path. -/
def qualifierText (qualifier : List PlainName) : List Char :=
  qualifier.flatMap fun name => name.text ++ [':', ':']

mutual

/-- The text of a type. -/
def text : TypeText → List Char
  | path rooted qualifier name arguments =>
      rootText rooted ++ (qualifierText qualifier ++ (name.text ++ argumentsText arguments))
  | slice element => '[' :: (element.text ++ [']'])
  | reference target => '&' :: target.text

/-- The arguments of a path; none are not written. -/
def argumentsText : List TypeText → List Char
  | [] => []
  | first :: others => '<' :: (first.text ++ moreText others)

/-- What follows the first argument of a path. -/
def moreText : List TypeText → List Char
  | [] => ['>']
  | next :: others => ',' :: ' ' :: (next.text ++ moreText others)

end

/-- The two colons of a path. -/
def colons : List Tree := [.punct ':' true, .punct ':' false]

/-- The trees of the start of a path. -/
def rootTrees (rooted : Bool) : List Tree := if rooted then colons else []

/-- The trees of the words before the last one of a path. -/
def qualifierTrees (qualifier : List PlainName) : List Tree :=
  qualifier.flatMap fun name => .ident name.ident :: colons

/-- Whether the text of a type starts with a punctuation mark. -/
def startsMark : TypeText → Bool
  | path rooted _ _ _ => rooted
  | slice _ => false
  | reference _ => true

mutual

/-- The trees of a type; `joint` tells whether a mark follows the text at once. -/
def trees (joint : Bool) : TypeText → List Tree
  | path rooted qualifier name arguments =>
      rootTrees rooted ++
        (qualifierTrees qualifier ++ .ident name.ident :: argumentTrees joint arguments)
  | slice element => [.group .bracket (trees false element)]
  | reference target => .punct '&' target.startsMark :: trees joint target

/-- The trees of the arguments of a path. -/
def argumentTrees (joint : Bool) : List TypeText → List Tree
  | [] => []
  | first :: others => .punct '<' first.startsMark :: (trees true first ++ moreTrees joint others)

/-- The trees of what follows the first argument of a path. -/
def moreTrees (joint : Bool) : List TypeText → List Tree
  | [] => [.punct '>' joint]
  | next :: others => .punct ',' false :: (trees true next ++ moreTrees joint others)

end

mutual

/-- The type that is written. -/
def toTy : TypeText → Ty
  | path _ qualifier name arguments =>
      .path (qualifier.map PlainName.ident) name.ident (toTys arguments)
  | slice element => .slice element.toTy
  | reference target => .reference target.toTy

/-- The types that are written. -/
def toTys : List TypeText → List Ty
  | [] => []
  | type :: types => type.toTy :: toTys types

end

/-! ## Reading the text -/

theorem exists_text (name : PlainName) : ∃ c rest, name.text = c :: rest ∧
    startsIdentifier c = true ∧ ∀ d ∈ rest, continuesIdentifier d = true := by
  have spelled := name.spelled
  rw [PlainName.text]
  cases letters : name.ident.name.toList with
  | nil =>
      rw [letters] at spelled
      cases spelled
  | cons c rest =>
      simp only [letters, isName, Bool.and_eq_true, List.all_eq_true] at spelled
      exact ⟨c, rest, rfl, spelled⟩

theorem readMark_name_append (name : PlainName) (rest : List Char) :
    readMark (name.text ++ rest) = none := by
  obtain ⟨c, more, text, starts, -⟩ := exists_text name
  rw [text, List.cons_append]
  exact readMark_of_continuesIdentifier (continuesIdentifier_of_startsIdentifier starts) _

theorem readMark_qualifier_append (qualifier : List PlainName) {rest : List Char}
    (unmarked : readMark rest = none) : readMark (qualifierText qualifier ++ rest) = none := by
  cases qualifier with
  | nil => exact unmarked
  | cons name qualifier =>
      rw [qualifierText, List.flatMap_cons, List.append_assoc, List.append_assoc]
      exact readMark_name_append name _

theorem readMark_text_append (type : TypeText) (rest : List Char) :
    (readMark (type.text ++ rest)).isSome = type.startsMark := by
  cases type with
  | path rooted qualifier name arguments =>
      cases rooted with
      | false =>
          have unmarked := readMark_qualifier_append qualifier
            (readMark_name_append name (argumentsText arguments ++ rest))
          simp [text, rootText, startsMark, unmarked]
      | true => rfl
  | slice element => rfl
  | reference target => rfl

/-- The marks that may stand after a name. -/
theorem endsName_cons (c : Char) (ends : c ∈ [']', '>', ',', ':', '<']) (rest : List Char) :
    EndsName (c :: rest) := by
  rintro d ⟨⟩
  simp only [List.mem_cons, List.not_mem_nil, or_false] at ends
  rcases ends with rfl | rfl | rfl | rfl | rfl <;> decide

theorem readsAs_name (name : PlainName) {rest : List Char} (ends : EndsName rest) :
    ReadsAs name.text [.ident name.ident] rest :=
  ReadsAs.name name.plain name.spelled ends

theorem readsAs_colons {rest : List Char} (unmarked : readMark rest = none) :
    ReadsAs [':', ':'] colons rest := by
  have first := ReadsAs.mark ':' (by decide) (':' :: rest)
  have second := ReadsAs.mark ':' (by decide) rest
  rw [unmarked] at second
  exact first.append second

theorem readsAs_root (rooted : Bool) {rest : List Char} (unmarked : readMark rest = none) :
    ReadsAs (rootText rooted) (rootTrees rooted) rest := by
  cases rooted with
  | false => exact ⟨0, le_rfl, fun _ _ _ => rfl⟩
  | true => exact readsAs_colons unmarked

theorem readsAs_qualifier (qualifier : List PlainName) {rest : List Char}
    (unmarked : readMark rest = none) :
    ReadsAs (qualifierText qualifier) (qualifierTrees qualifier) rest := by
  induction qualifier with
  | nil => exact ⟨0, le_rfl, fun _ _ _ => rfl⟩
  | cons name qualifier induction =>
      have colons := readsAs_colons (readMark_qualifier_append qualifier unmarked)
      have first := readsAs_name name
        (endsName_cons ':' (by decide) (':' :: (qualifierText qualifier ++ rest)))
      have both := first.append colons
      rw [qualifierText, List.flatMap_cons, qualifierTrees, List.flatMap_cons]
      exact both.append induction

theorem endsName_argumentsText (arguments : List TypeText) {rest : List Char}
    (ends : EndsName rest) : EndsName (argumentsText arguments ++ rest) := by
  cases arguments with
  | nil => exact ends
  | cons first others => exact endsName_cons '<' (by decide) _

theorem endsName_moreText (others : List TypeText) (rest : List Char) :
    EndsName (moreText others ++ rest) := by
  cases others with
  | nil => exact endsName_cons '>' (by decide) _
  | cons next others => exact endsName_cons ',' (by decide) _

theorem readMark_moreText (others : List TypeText) (rest : List Char) :
    (readMark (moreText others ++ rest)).isSome = true := by
  cases others with
  | nil => rfl
  | cons next others => rfl

mutual

/-- A written type is read as its trees, in front of anything that does not go on with its last
name. -/
theorem readsAs : (type : TypeText) → {rest : List Char} → EndsName rest →
    ReadsAs type.text (type.trees (readMark rest).isSome) rest
  | path rooted qualifier name arguments, rest, ends => by
      have last := (readsAs_name name (endsName_argumentsText arguments ends)).append
        (readsAs_arguments arguments ends)
      have unmarked := readMark_name_append name (argumentsText arguments ++ rest)
      rw [← List.append_assoc] at unmarked
      have qualified := (readsAs_qualifier qualifier unmarked).append last
      have start := readMark_qualifier_append qualifier unmarked
      rw [← List.append_assoc] at start
      exact (readsAs_root rooted start).append qualified
  | slice element, rest, _ =>
      ReadsAs.bracket (readsAs element (endsName_cons ']' (by decide) rest))
  | reference target, rest, ends => by
      have mark := ReadsAs.mark '&' (by decide) (target.text ++ rest)
      rw [readMark_text_append] at mark
      exact mark.append (readsAs target ends)

theorem readsAs_arguments : (arguments : List TypeText) → {rest : List Char} → EndsName rest →
    ReadsAs (argumentsText arguments) (argumentTrees (readMark rest).isSome arguments) rest
  | [], _, _ => ⟨0, le_rfl, fun _ _ _ => rfl⟩
  | first :: others, rest, ends => by
      have mark := ReadsAs.mark '<' (by decide)
        (first.text ++ (moreText others ++ rest))
      rw [readMark_text_append, ← List.append_assoc] at mark
      have argument := readsAs first (endsName_moreText others rest)
      rw [readMark_moreText] at argument
      exact mark.append (argument.append (readsAs_more others ends))

theorem readsAs_more : (others : List TypeText) → {rest : List Char} → EndsName rest →
    ReadsAs (moreText others) (moreTrees (readMark rest).isSome others) rest
  | [], rest, _ => ReadsAs.mark '>' (by decide) rest
  | next :: others, rest, ends => by
      have mark := ReadsAs.mark ',' (by decide)
        (' ' :: (next.text ++ moreText others ++ rest))
      have blank := ReadsAs.blank (next.text ++ moreText others ++ rest)
      have argument := readsAs next (endsName_moreText others rest)
      rw [readMark_moreText] at argument
      exact mark.append (blank.append (argument.append (readsAs_more others ends)))

end

/-! ## The ends of the text -/

theorem exists_head_path (rooted : Bool) (qualifier : List PlainName) (name : PlainName)
    (arguments : List TypeText) :
    ∃ c rest, (path rooted qualifier name arguments).text = c :: rest ∧
      (continuesIdentifier c = true ∨ c ∈ [':']) := by
  have named : ∀ (name : PlainName) (more : List Char), ∃ c rest, name.text ++ more = c :: rest ∧
      (continuesIdentifier c = true ∨ c ∈ [':']) := by
    intro name more
    obtain ⟨c, rest, spelled, starts, -⟩ := exists_text name
    exact ⟨c, rest ++ more, by rw [spelled, List.cons_append],
      Or.inl (continuesIdentifier_of_startsIdentifier starts)⟩
  cases rooted with
  | true => exact ⟨':', _, rfl, Or.inr (by decide)⟩
  | false =>
      cases qualifier with
      | nil => exact named name _
      | cons first qualifier =>
          simp only [text, rootText, qualifierText, List.flatMap_cons, List.append_assoc]
          exact named first _

/-- The text of a type starts with a name or one of three marks. -/
theorem exists_head (type : TypeText) : ∃ c rest, type.text = c :: rest ∧
    (continuesIdentifier c = true ∨ c ∈ [':', '[', '&']) := by
  cases type with
  | path rooted qualifier name arguments =>
      obtain ⟨c, rest, spelled, known⟩ := exists_head_path rooted qualifier name arguments
      exact ⟨c, rest, spelled, known.imp_right fun colon => List.mem_of_mem_head? (by simp_all)⟩
  | slice element => exact ⟨'[', _, rfl, Or.inr (by decide)⟩
  | reference target => exact ⟨'&', _, rfl, Or.inr (by decide)⟩

theorem exists_last_name (name : PlainName) :
    ∃ front c, name.text = front ++ [c] ∧ continuesIdentifier c = true := by
  obtain ⟨first, rest, spelled, starts, continued⟩ := exists_text name
  have nonempty : name.text ≠ [] := by simp [spelled]
  refine ⟨name.text.dropLast, name.text.getLast nonempty,
    (List.dropLast_append_getLast nonempty).symm, ?_⟩
  exact all_of_isName name.spelled _ (List.getLast_mem nonempty)

theorem exists_last_moreText (others : List TypeText) :
    ∃ front, moreText others = front ++ ['>'] := by
  induction others with
  | nil => exact ⟨[], rfl⟩
  | cons next others induction =>
      obtain ⟨front, ended⟩ := induction
      exact ⟨',' :: ' ' :: (next.text ++ front), by simp [moreText, ended]⟩

theorem exists_last_path (rooted : Bool) (qualifier : List PlainName) (name : PlainName)
    (arguments : List TypeText) :
    ∃ front c, (path rooted qualifier name arguments).text = front ++ [c] ∧
      (continuesIdentifier c = true ∨ c ∈ ['>']) := by
  cases arguments with
  | nil =>
      obtain ⟨front, c, ended, continues⟩ := exists_last_name name
      exact ⟨rootText rooted ++ (qualifierText qualifier ++ front), c,
        by simp [text, argumentsText, ended], Or.inl continues⟩
  | cons first others =>
      obtain ⟨front, ended⟩ := exists_last_moreText others
      exact ⟨rootText rooted ++
          (qualifierText qualifier ++ (name.text ++ '<' :: (first.text ++ front))),
        '>', by simp [text, argumentsText, ended], Or.inr (by decide)⟩

/-- The text of a type ends with a name or one of two marks. -/
theorem exists_last : (type : TypeText) → ∃ front c, type.text = front ++ [c] ∧
    (continuesIdentifier c = true ∨ c ∈ ['>', ']'])
  | path rooted qualifier name arguments => by
      obtain ⟨front, c, ended, known⟩ := exists_last_path rooted qualifier name arguments
      exact ⟨front, c, ended, known.imp_right fun close => List.mem_of_mem_head? (by simp_all)⟩
  | slice element => ⟨'[' :: element.text, ']', rfl, Or.inr (by decide)⟩
  | reference target => by
      obtain ⟨front, c, ended, known⟩ := exists_last target
      exact ⟨'&' :: front, c, by rw [text, ended, List.cons_append], known⟩

/-- The text of a type is read as its trees. -/
theorem trees?_text (type : TypeText) : trees? type.text = some (type.trees false) := by
  refine ReadsAs.trees? (type.readsAs (nofun : EndsName [])) fun marked => ?_
  obtain ⟨c, rest, spelled, known⟩ := type.exists_head
  rw [spelled, List.head?_cons, Option.some.injEq] at marked
  subst marked
  rcases known with continues | mark
  · have apart := has_separators_of_continuesIdentifier continues
    revert apart
    decide
  · revert mark
    decide

end TypeText

end DocApi.Source
