import DocApi.Proofs.Schema.SchemaWords

/-!
# Markers of type words

`[]` makes a type word a sequence on either side of it, whatever the word is. Around a plain name,
any mixture of `[]` and `?` on both sides puts one layer for each marker around the name: markers
are taken away from the outside in, and none of them is lost or counted twice.
-/

namespace DocApi

namespace TypeExpr

/-! ## Sequences -/

theorem ofWord_of_sequenceMark {word inner : List Char}
    (marked : dropSequenceMark? (trim word) = some inner) :
    ofWord word = .sequence (ofWord inner) := by
  fun_cases ofWord word with
  | case1 other found => rw [Option.some.inj (marked.symm.trans found)]
  | case2 unmarked => cases marked.symm.trans unmarked
  | case3 unmarked => cases marked.symm.trans unmarked

theorem ofWord_of_optionMark {word inner : List Char}
    (unmarked : dropSequenceMark? (trim word) = none)
    (maybe : dropOptionMark? (trim word) = some inner) :
    ofWord word = .optional (ofWord inner) := by
  fun_cases ofWord word with
  | case1 other found => cases unmarked.symm.trans found
  | case2 _ other found => rw [Option.some.inj (maybe.symm.trans found)]
  | case3 _ certain => cases maybe.symm.trans certain

theorem ofWord_of_unmarked {word : List Char} (unmarked : dropSequenceMark? (trim word) = none)
    (certain : dropOptionMark? (trim word) = none) : ofWord word = ofPlainWord (trim word) := by
  fun_cases ofWord word with
  | case1 other found => cases unmarked.symm.trans found
  | case2 _ other found => cases certain.symm.trans found
  | case3 => rfl

/-- Blanks around a word do not matter. -/
theorem ofWord_of_trim_eq {first second : List Char} (same : trim first = trim second) :
    ofWord first = ofWord second := by
  fun_cases ofWord second with
  | case1 inner marked => exact ofWord_of_sequenceMark (same ▸ marked)
  | case2 unmarked inner maybe => exact ofWord_of_optionMark (same ▸ unmarked) (same ▸ maybe)
  | case3 unmarked certain =>
      rw [ofWord_of_unmarked (same ▸ unmarked) (same ▸ certain), same]

theorem ofWord_brackets_append (word : List Char) :
    ofWord (['[', ']'] ++ word) = .sequence (ofWord word) := by
  have ends : EndsSolid ['[', ']'] := ⟨['['], ']', rfl, by decide⟩
  have trimmed : trim (['[', ']'] ++ word) = ['[', ']'] ++ trimEnd word := by
    rw [trim, ← trimEnd_append_of_endsSolid ends]
    rfl
  have marked : dropSequenceMark? (trim (['[', ']'] ++ word)) = some (trimEnd word) := by
    rw [trimmed, dropSequenceMark?, afterStart?_eq_some_iff.2 rfl, Option.some_or]
  rw [ofWord_of_sequenceMark marked, ofWord_of_trim_eq (trim_trimEnd word)]

/-- The marker behind a word leaves the word, unless there is one in front of it, too. -/
theorem dropSequenceMark?_append_brackets {word : List Char}
    (unmarked : afterStart? ['[', ']'] word = none) :
    dropSequenceMark? (word ++ ['[', ']']) = some word := by
  have behind : beforeEnd? ['[', ']'] (word ++ ['[', ']']) = some word :=
    beforeEnd?_eq_some_iff.2 rfl
  cases front : afterStart? ['[', ']'] (word ++ ['[', ']']) with
  | none => rw [dropSequenceMark?, front, Option.none_or, behind]
  | some rest =>
      have split := afterStart?_eq_some_iff.1 front
      cases word with
      | nil =>
          obtain rfl : rest = [] := by simpa using split.symm
          rw [dropSequenceMark?, front, Option.some_or]
      | cons c tail =>
          cases tail with
          | nil => simp at split
          | cons d more =>
              obtain ⟨rfl, rfl, -⟩ : c = '[' ∧ d = ']' ∧ _ := by simpa using split
              cases unmarked

theorem ofWord_append_brackets (word : List Char) :
    ofWord (word ++ ['[', ']']) = .sequence (ofWord word) := by
  induction length : word.length using Nat.strong_induction_on generalizing word with
  | _ size induction =>
      have start : trimStart (word ++ ['[', ']']) = trimStart word ++ ['[', ']'] := by
        rw [trimStart, trimStart, List.dropWhile_append]
        split
        · rename_i empty
          rw [List.isEmpty_iff.1 empty]
          rfl
        · rfl
      have ends : EndsSolid (trimStart word ++ ['[', ']']) :=
        EndsSolid.append ⟨['['], ']', rfl, by decide⟩ _
      have trimmed : trim (word ++ ['[', ']']) = trimStart word ++ ['[', ']'] := by
        rw [trim, start, trimEnd_of_endsSolid ends]
      have same : ofWord (trimStart word) = ofWord word := ofWord_of_trim_eq (trim_trimStart word)
      cases front : afterStart? ['[', ']'] (trimStart word) with
      | none =>
          have marked : dropSequenceMark? (trim (word ++ ['[', ']'])) = some (trimStart word) := by
            rw [trimmed, dropSequenceMark?_append_brackets front]
          rw [ofWord_of_sequenceMark marked, same]
      | some rest =>
          -- The marker in front is taken first, and the one behind stays with what it leaves.
          have cut := afterStart?_eq_some_iff.1 front
          have shorter : rest.length < size := by
            have lost := length_of_afterStart? front
            have dropped := length_dropWhile_le isBlank word
            simp only [trimStart, List.length_cons, List.length_nil] at lost
            omega
          have whole : trimStart (word ++ ['[', ']']) = ['[', ']'] ++ (rest ++ ['[', ']']) := by
            rw [start, cut, List.append_assoc]
          calc ofWord (word ++ ['[', ']'])
              = ofWord (['[', ']'] ++ (rest ++ ['[', ']'])) := by
                rw [← whole, ofWord_of_trim_eq (trim_trimStart _)]
            _ = .sequence (.sequence (ofWord rest)) := by
                rw [ofWord_brackets_append, induction _ shorter rest rfl]
            _ = .sequence (ofWord word) := by rw [← same, cut, ofWord_brackets_append]

end TypeExpr

/-! ## Mixed markers -/

/-- A marker of a type word. -/
inductive TypeMarker where
  /-- `[]` -/
  | sequence
  /-- `?` -/
  | optional
deriving DecidableEq, Repr

namespace TypeMarker

/-- A marker as it is written. -/
def text : TypeMarker → List Char
  | sequence => ['[', ']']
  | optional => ['?']

/-- Markers as they are written, one after the other. -/
def textAll (markers : List TypeMarker) : List Char := markers.flatMap text

/-- The layer that a marker puts around a type. -/
def layer : TypeMarker → TypeExpr → TypeExpr
  | sequence => .sequence
  | optional => .optional

/-- A word with markers before and after it. -/
def marked (before : List TypeMarker) (word : List Char) (after : List TypeMarker) : List Char :=
  textAll before ++ (word ++ textAll after)

/-- The layers of markers around a type, the first one outermost. -/
def layers (markers : List TypeMarker) (type : TypeExpr) : TypeExpr := markers.foldr layer type

theorem solid_of_mem_textAll {markers : List TypeMarker} {c : Char} (member : c ∈ textAll markers) :
    isBlank c = false := by
  obtain ⟨marker, -, inside⟩ := List.mem_flatMap.1 member
  cases marker with
  | sequence =>
      obtain rfl | rfl : c = '[' ∨ c = ']' := by simpa [text] using inside
      · decide
      · decide
  | optional =>
      obtain rfl : c = '?' := by simpa [text] using inside
      decide

end TypeMarker

/-- Whether a word is a plain name: it is not empty, and has neither blanks nor any character that
markers and declared types are written with. -/
structure PlainWord (word : List Char) : Prop where
  nonempty : word ≠ []
  solid : ∀ c ∈ word, isBlank c = false
  plain : ∀ c ∈ word, c ∉ ['<', ':', '[', ']', '&', '?']

namespace TypeExpr

open TypeMarker

/-- A word that neither starts nor ends with a bracket has no sequence marker. -/
theorem dropSequenceMark?_eq_none {word : List Char} (front : word.head? ≠ some '[')
    (back : word.getLast? ≠ some ']') : dropSequenceMark? word = none := by
  rw [Option.eq_none_iff_forall_ne_some]
  intro inner marked
  rcases Option.or_eq_some_iff.1 marked with start | ⟨-, stop⟩
  · exact front (by simp [afterStart?_eq_some_iff.1 start])
  · exact back (by simp [beforeEnd?_eq_some_iff.1 stop])

section Markers

variable {base : List Char} (plain : PlainWord base)
include plain

theorem ofWord_of_plainWord : ofWord base = .named (String.ofList base) := by
  have undeclared : isDeclared base = false := by
    rw [Bool.eq_false_iff]
    intro declared
    obtain ⟨c, member, sign⟩ := isDeclared_eq_true_iff.1 declared
    have known : ['<', ':', '[', '&'] ⊆ ['<', ':', '[', ']', '&', '?'] := by decide
    exact plain.plain c member (known sign)
  have certain : dropOptionMark? base = none := by
    rw [Option.eq_none_iff_forall_ne_some]
    intro inner maybe
    exact plain.plain '?' (mem_of_dropOptionMark? maybe) (by decide)
  have filled : base.isEmpty = false := by simpa using plain.nonempty
  have trimmed : trim base = base := trim_of_solid plain.solid
  rw [ofWord_of_unmarked, trimmed]
  · simp [ofPlainWord, filled, undeclared]
  · rw [trimmed, dropSequenceMark?_of_undeclared undeclared]
  · rw [trimmed, certain]

theorem trim_marked (before after : List TypeMarker) :
    trim (marked before base after) = marked before base after := by
  refine trim_of_solid fun c member => ?_
  rcases List.mem_append.1 member with front | member
  · exact solid_of_mem_textAll front
  · rcases List.mem_append.1 member with middle | back
    · exact plain.solid c middle
    · exact solid_of_mem_textAll back

theorem head?_append_ne (text : List Char) {sign : Char}
    (known : sign ∈ ['<', ':', '[', ']', '&', '?']) : (base ++ text).head? ≠ some sign := by
  obtain ⟨c, rest, rfl⟩ := List.exists_cons_of_ne_nil plain.nonempty
  intro starts
  obtain rfl : c = sign := by simpa using starts
  exact plain.plain c List.mem_cons_self known

/-- A name that is not marked as a sequence behind it does not end with a bracket. -/
theorem getLast?_marked_ne {after : List TypeMarker} (other : after.getLast? ≠ some .sequence)
    (before : List TypeMarker) : (marked before base after).getLast? ≠ some ']' := by
  rcases List.eq_nil_or_concat after with rfl | ⟨inAfter, marker, rfl⟩
  · obtain ⟨front, c, rfl⟩ := (List.eq_nil_or_concat base).resolve_left plain.nonempty
    intro ends
    obtain rfl : c = ']' := by simpa [marked, textAll] using ends
    exact plain.plain ']' (by simp) (by decide)
  · cases marker with
    | sequence => simp at other
    | optional => simp [marked, textAll, text]

/-- One of the outer markers of a name is taken away, and its layer is the outermost one. -/
theorem exists_outermost {before after : List TypeMarker} (some : before ++ after ≠ []) :
    ∃ marker inBefore inAfter, (marker :: (inBefore ++ inAfter)).Perm (before ++ after) ∧
      ofWord (marked before base after) = layer marker (ofWord (marked inBefore base inAfter)) := by
  have behind : ∀ (marker : TypeMarker) (inAfter : List TypeMarker),
      (marker :: (before ++ inAfter)).Perm (before ++ (inAfter ++ [marker])) := by
    intro marker inAfter
    simpa using (List.perm_append_singleton marker (before ++ inAfter)).symm
  by_cases back : after.getLast? = Option.some .sequence
  · obtain ⟨inAfter, rfl⟩ := List.getLast?_eq_some_iff.1 back
    refine ⟨.sequence, before, inAfter, behind _ _, ?_⟩
    have split : marked before base (inAfter ++ [.sequence]) =
        marked before base inAfter ++ ['[', ']'] := by
      simp [marked, textAll, text]
    rw [split, ofWord_append_brackets, layer]
  have stop := getLast?_marked_ne plain back
  match before with
  | .sequence :: inBefore =>
      exact ⟨.sequence, inBefore, after, .refl _, ofWord_brackets_append _⟩
  | .optional :: inBefore =>
      refine ⟨.optional, inBefore, after, .refl _, ofWord_of_optionMark ?_ ?_⟩ <;>
        rw [trim_marked plain]
      · exact dropSequenceMark?_eq_none (by simp [marked, textAll, text]) (stop _)
      · rfl
  | [] =>
      obtain ⟨inAfter, marker, rfl⟩ := (List.eq_nil_or_concat after).resolve_left some
      rw [List.concat_eq_append] at back stop ⊢
      obtain rfl : marker = .optional := by
        cases marker with
        | sequence => simp at back
        | optional => rfl
      have start : (marked [] base (inAfter ++ [.optional])).head? ≠ Option.some '[' :=
        head?_append_ne plain _ (by decide)
      have unmarked : afterStart? ['?'] (marked [] base (inAfter ++ [.optional])) = none := by
        rw [Option.eq_none_iff_forall_ne_some]
        intro rest found
        have question := congrArg List.head? (afterStart?_eq_some_iff.1 found)
        exact head?_append_ne plain _ (by decide) question
      refine ⟨.optional, [], inAfter, behind _ _, ofWord_of_optionMark ?_ ?_⟩ <;>
        rw [trim_marked plain]
      · exact dropSequenceMark?_eq_none start (stop _)
      · rw [dropOptionMark?, unmarked, Option.none_or, beforeEnd?_eq_some_iff]
        simp [marked, textAll, text]

/-- Around a plain name there is one layer for each marker, and nothing else. -/
theorem exists_layers (before after : List TypeMarker) :
    ∃ markers : List TypeMarker, markers.Perm (before ++ after) ∧
      ofWord (marked before base after) = layers markers (.named (String.ofList base)) := by
  induction count : (before ++ after).length generalizing before after with
  | zero =>
      obtain ⟨rfl, rfl⟩ := List.append_eq_nil_iff.1 (List.length_eq_zero_iff.1 count)
      have bare : marked [] base [] = base := by simp [marked, textAll]
      exact ⟨[], .refl _, by rw [bare, ofWord_of_plainWord plain]; rfl⟩
  | succ size induction =>
      have some : before ++ after ≠ [] := List.ne_nil_of_length_eq_add_one count
      obtain ⟨marker, inBefore, inAfter, taken, outer⟩ := exists_outermost plain some
      have fewer : (inBefore ++ inAfter).length = size := by
        have same := taken.length_eq
        rw [count, List.length_cons] at same
        omega
      obtain ⟨inner, listed, inside⟩ := induction inBefore inAfter fewer
      refine ⟨marker :: inner, (listed.cons marker).trans taken, ?_⟩
      rw [outer, inside]
      rfl

end Markers

end TypeExpr

/-- Before and after any word, `[]` makes a sequence of what the word stands for. Markers in any
order on both sides of a plain name make as many sequences and optionals of it as there are markers
of each kind. -/
theorem type_of_marked_word :
    (∀ word : List Char,
      TypeExpr.ofWord (['[', ']'] ++ word) = .sequence (.ofWord word) ∧
        TypeExpr.ofWord (word ++ ['[', ']']) = .sequence (.ofWord word)) ∧
    ∀ (base : List Char) (before after : List TypeMarker), base ≠ [] →
      (∀ c ∈ base, isBlank c = false ∧ c ∉ ['<', ':', '[', ']', '&', '?']) →
      ∃ markers : List TypeMarker, markers.Perm (before ++ after) ∧
        TypeExpr.ofWord
            (before.flatMap TypeMarker.text ++ (base ++ after.flatMap TypeMarker.text)) =
          markers.foldr TypeMarker.layer (.named (String.ofList base)) := by
  refine ⟨fun word => ?_, ?_⟩
  · exact ⟨TypeExpr.ofWord_brackets_append word, TypeExpr.ofWord_append_brackets word⟩
  · intro base before after nonempty plain
    exact TypeExpr.exists_layers
      ⟨nonempty, fun c member => (plain c member).1, fun c member => (plain c member).2⟩
      before after

/-- Three markers around a name, and one in front of blanks. -/
theorem type_of_marked_user :
    (∃ markers : List TypeMarker, markers.Perm [.optional, .sequence, .sequence] ∧
      TypeExpr.ofWord "?[]User[]".toList = markers.foldr TypeMarker.layer (.named "User")) ∧
      TypeExpr.ofWord "[]  ".toList = .sequence (.ofWord "  ".toList) := by
  have plain : ∀ c ∈ ['U', 's', 'e', 'r'],
      isBlank c = false ∧ c ∉ ['<', ':', '[', ']', '&', '?'] := by
    simp [isBlank]
  refine ⟨?_, (type_of_marked_word.1 "  ".toList).1⟩
  exact type_of_marked_word.2 ['U', 's', 'e', 'r'] [.optional, .sequence] [.sequence] (by decide)
    plain

end DocApi
