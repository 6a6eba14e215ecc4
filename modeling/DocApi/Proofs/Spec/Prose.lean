import DocApi.Proofs.Spec.Routines

/-!
# Prose and annotations

The prose of a text and its annotations are two views of its lines, and they do not mix: prose has
no annotations, a marked line does not change the prose, and an unmarked one not the annotations.
Every line that is not marked is in the prose. A marked line never is, and so prose is lost where a
line starts with the marker and is no annotation for all that.
-/

namespace DocApi

/-! ## Pieces between newlines -/

/-- Every text is made of lines that are joined. -/
theorem exists_joinLines (text : List Char) :
    ∃ front last, text = joinLines (front ++ [last]) ∧ ∀ line ∈ front ++ [last], '\n' ∉ line := by
  induction text with
  | nil => exact ⟨[], [], rfl, by simp⟩
  | cons c text induction =>
      obtain ⟨front, last, rfl, single⟩ := induction
      by_cases newline : c = '\n'
      · subst newline
        refine ⟨[] :: front, last, ?_, ?_⟩
        · rw [joinLines_concat, joinLines_concat]
          rfl
        · rw [List.cons_append, List.forall_mem_cons]
          exact ⟨List.not_mem_nil, single⟩
      · rw [joinLines_concat]
        cases front with
        | nil =>
            refine ⟨[], c :: last, ?_, ?_⟩
            · rw [joinLines_concat]
              rfl
            · simpa [Ne.symm newline] using single
        | cons first front =>
            refine ⟨(c :: first) :: front, last, ?_, ?_⟩
            · rw [joinLines_concat]
              rfl
            · rw [List.cons_append, List.forall_mem_cons] at single ⊢
              exact ⟨by simpa [Ne.symm newline] using single.1, single.2⟩

/-- A line ends, or a text starts, after `front`. -/
def EndsLine (front : List Char) : Prop := front = [] ∨ front.getLast? = some '\n'

theorem EndsLine.exists_lines {front : List Char} (ends : EndsLine front) :
    ∃ before : List (List Char), front = before.flatMap (· ++ ['\n']) ∧
      ∀ line ∈ before, '\n' ∉ line := by
  rcases ends with rfl | newline
  · exact ⟨[], rfl, nofun⟩
  · obtain ⟨before, last, rfl, single⟩ := exists_joinLines front
    rw [joinLines_concat] at newline ⊢
    -- What follows the last newline is empty, since the text ends with one.
    obtain rfl : last = [] := by
      rcases List.eq_nil_or_concat last with rfl | ⟨start, c, rfl⟩
      · rfl
      · obtain rfl : c = '\n' := by simpa using newline
        exact absurd (by simp) (single _ (List.mem_append_right before List.mem_cons_self))
    refine ⟨before, List.append_nil _, fun line member => ?_⟩
    exact single line (List.mem_append_left _ member)

/-- One more line at the start of a text, between two lines or at the end. -/
inductive InsertsLine (line : List Char) : List Char → List Char → Prop
  /-- In front of the rest of a text. -/
  | before {front : List Char} (rest : List Char) (ends : EndsLine front) :
      InsertsLine line (front ++ rest) (front ++ (line ++ '\n' :: rest))
  /-- After a last newline. -/
  | last {text : List Char} (ends : EndsLine text) : InsertsLine line text (text ++ line)
  /-- After a last line without a newline. -/
  | after (text : List Char) : InsertsLine line text (text ++ '\n' :: line)

namespace InsertsLine

variable {line text longer : List Char}

/-- In terms of joined lines, one more line stands among the others; an empty one at the end may
make room for it. -/
theorem exists_lines (inserts : InsertsLine line text longer) :
    ∃ before after rest, text = joinLines (before ++ after) ∧
      longer = joinLines (before ++ line :: rest) ∧
      (∀ other ∈ before ++ after, '\n' ∉ other) ∧ (rest = after ∨ rest = [] ∧ after = [[]]) := by
  cases inserts with
  | @before front rest ends =>
      obtain ⟨before, rfl, first⟩ := ends.exists_lines
      obtain ⟨between, last, rfl, later⟩ := exists_joinLines rest
      refine ⟨before, between ++ [last], between ++ [last], ?_, ?_, ?_, Or.inl rfl⟩
      · rw [← List.append_assoc, joinLines_concat, joinLines_concat]
        simp
      · have split :
            before ++ line :: (between ++ [last]) = (before ++ line :: between) ++ [last] := by
          simp
        rw [split, joinLines_concat, joinLines_concat]
        simp
      · exact fun other member => (List.mem_append.1 member).elim (first other) (later other)
  | last ends =>
      obtain ⟨before, rfl, first⟩ := ends.exists_lines
      refine ⟨before, [[]], [], ?_, ?_, ?_, Or.inr ⟨rfl, rfl⟩⟩
      · rw [joinLines_concat, List.append_nil]
      · rw [joinLines_concat]
      · rw [List.forall_mem_append]
        exact ⟨first, by simp⟩
  | after =>
      obtain ⟨between, last, rfl, single⟩ := exists_joinLines text
      refine ⟨between ++ [last], [], [], ?_, ?_, ?_, Or.inl rfl⟩
      · rw [List.append_nil]
      · rw [joinLines_concat, joinLines_concat]
        simp
      · simpa using single

theorem single_of_inserts {before after rest : List (List Char)} (own : '\n' ∉ line)
    (single : ∀ other ∈ before ++ after, '\n' ∉ other)
    (same : rest = after ∨ rest = [] ∧ after = [[]]) :
    ∀ other ∈ before ++ line :: rest, '\n' ∉ other := by
  intro other member
  rcases List.mem_append.1 member with front | member
  · exact single other (List.mem_append_left after front)
  · rcases List.mem_cons.1 member with rfl | back
    · exact own
    · rcases same with rfl | ⟨rfl, -⟩
      · exact single other (List.mem_append_right before back)
      · cases back

theorem prose_eq (inserts : InsertsLine line text longer) (own : '\n' ∉ line)
    (marked : isMarked line = true) :
    prose (String.ofList longer) = prose (String.ofList text) := by
  obtain ⟨before, after, rest, rfl, rfl, single, same⟩ := inserts.exists_lines
  rw [prose_joinLines single, prose_joinLines (single_of_inserts own single same)]
  have dropped : ∀ lines : List (List Char),
      (((before ++ line :: lines).map endLine).filter fun line => !isMarked line) =
        ((before ++ lines).map endLine).filter fun line => !isMarked line := by
    intro lines
    simp [isMarked_endLine, marked]
  rw [dropped]
  rcases same with rfl | ⟨rfl, rfl⟩
  · rfl
  · have empty : isMarked (endLine []) = false := rfl
    rw [List.append_nil, List.map_append, List.filter_append]
    exact congrArg String.ofList (trim_joinLines_nil _).symm

theorem annotations_eq (inserts : InsertsLine line text longer) (own : '\n' ∉ line)
    (unmarked : isMarked line = false) :
    annotations (String.ofList longer) = annotations (String.ofList text) := by
  obtain ⟨before, after, rest, rfl, rfl, single, same⟩ := inserts.exists_lines
  rw [annotations_joinLines single, annotations_joinLines (single_of_inserts own single same)]
  have silent : lineAnnotation? line = none := by
    rw [Option.eq_none_iff_forall_ne_some]
    intro note found
    rw [isMarked_of_lineAnnotation? found] at unmarked
    cases unmarked
  rw [List.filterMap_append, List.filterMap_append, List.filterMap_cons_none silent]
  rcases same with rfl | ⟨rfl, rfl⟩
  · rfl
  · rfl

end InsertsLine

/-! ## Lines that are not blank -/

/-- The lines that are not blank, trimmed. -/
def solidLines (texts : List (List Char)) : List (List Char) :=
  (texts.map trim).filter fun line => !line.isEmpty

theorem solidLines_append (first second : List (List Char)) :
    solidLines (first ++ second) = solidLines first ++ solidLines second := by
  simp [solidLines]

theorem solidLines_cons (line : List Char) (texts : List (List Char)) :
    solidLines (line :: texts) = solidLines [line] ++ solidLines texts :=
  solidLines_append [line] texts

theorem solidLines_of_trim_eq {first second : List Char} (same : trim first = trim second) :
    solidLines [first] = solidLines [second] := by
  simp [solidLines, same]

theorem mem_solidLines {texts : List (List Char)} {line : List Char} (member : line ∈ texts)
    (solid : trim line ≠ []) : trim line ∈ solidLines texts := by
  simp only [solidLines, List.mem_filter]
  exact ⟨List.mem_map_of_mem member, by simpa using solid⟩

theorem solidLines_linesFrom_nil (pending : List Char) :
    solidLines (linesFrom pending []) = solidLines [pending.reverse] := by
  cases pending with
  | nil => rfl
  | cons c pending => rfl

theorem solidLines_dropReturn (pending : List Char) :
    solidLines [(dropReturn pending).reverse] = solidLines [pending.reverse] := by
  refine solidLines_of_trim_eq ?_
  have same := trim_endLine pending.reverse
  rwa [endLine, List.reverse_reverse] at same

section Blanks

variable {blanks : List Char} (blank : ∀ c ∈ blanks, isBlank c = true)
include blank

/-- Blanks at the start of a line are trimmed, wherever the line ends. -/
theorem solidLines_linesFrom_append (pending text : List Char) :
    solidLines (linesFrom (pending ++ blanks) text) = solidLines (linesFrom pending text) := by
  have start : ∀ pending : List Char,
      solidLines [(pending ++ blanks).reverse] = solidLines [pending.reverse] := by
    intro pending
    rw [List.reverse_append]
    exact solidLines_of_trim_eq (trim_blanks_append (by simpa using blank) pending.reverse)
  induction text generalizing pending with
  | nil => rw [solidLines_linesFrom_nil, solidLines_linesFrom_nil, start]
  | cons c text induction =>
      by_cases newline : c = '\n'
      · subst newline
        rw [linesFrom, linesFrom, solidLines_cons, solidLines_cons (dropReturn pending).reverse,
          solidLines_dropReturn, solidLines_dropReturn, start]
      · rw [linesFrom_cons newline, linesFrom_cons newline]
        exact induction (c :: pending)

/-- Blanks after a line end it or are trimmed. -/
theorem solidLines_linesFrom_blanks (pending : List Char) :
    solidLines (linesFrom pending blanks) = solidLines [pending.reverse] := by
  induction blanks generalizing pending with
  | nil => exact solidLines_linesFrom_nil pending
  | cons c blanks induction =>
      rw [List.forall_mem_cons] at blank
      by_cases newline : c = '\n'
      · subst newline
        rw [linesFrom, solidLines_cons, solidLines_dropReturn, induction blank.2]
        exact List.append_nil _
      · rw [linesFrom_cons newline, induction blank.2, List.reverse_cons]
        exact solidLines_of_trim_eq (trim_append _ (by simpa using blank.1))

theorem solidLines_lines_append (text : List Char) :
    solidLines (lines (text ++ blanks)) = solidLines (lines text) := by
  have later : ∀ pending, solidLines (linesFrom pending (text ++ blanks)) =
      solidLines (linesFrom pending text) := by
    induction text with
    | nil =>
        intro pending
        rw [List.nil_append, solidLines_linesFrom_blanks blank, solidLines_linesFrom_nil]
    | cons c text induction =>
        intro pending
        by_cases newline : c = '\n'
        · subst newline
          rw [List.cons_append, linesFrom, linesFrom, solidLines_cons, induction,
            ← solidLines_cons]
        · rw [List.cons_append, linesFrom_cons newline, linesFrom_cons newline, induction]
  exact later []

theorem solidLines_lines_blanks_append (text : List Char) :
    solidLines (lines (blanks ++ text)) = solidLines (lines text) := by
  induction blanks with
  | nil => rfl
  | cons c blanks induction =>
      rw [List.forall_mem_cons] at blank
      rw [← induction blank.2, List.cons_append, lines]
      by_cases newline : c = '\n'
      · subst newline
        rw [linesFrom, solidLines_cons]
        rfl
      · rw [linesFrom_cons newline]
        exact solidLines_linesFrom_append (by simpa using blank.1) [] (blanks ++ text)

end Blanks

/-- Trimming a text takes blank lines and blanks around lines, and nothing else. -/
theorem solidLines_lines_trim (text : List Char) :
    solidLines (lines (trim text)) = solidLines (lines text) := by
  have atStart : text = text.takeWhile isBlank ++ trimStart text :=
    List.takeWhile_append_dropWhile.symm
  have blank : ∀ c ∈ text.takeWhile isBlank, isBlank c = true :=
    fun c member => List.mem_takeWhile_imp member
  obtain ⟨blanks, blank', atEnd⟩ := exists_trimEnd (trimStart text)
  calc solidLines (lines (trim text))
      = solidLines (lines (trim text ++ blanks)) := (solidLines_lines_append blank' _).symm
    _ = solidLines (lines (trimStart text)) := by rw [trim, ← atEnd]
    _ = solidLines (lines (text.takeWhile isBlank ++ trimStart text)) :=
        (solidLines_lines_blanks_append blank _).symm
    _ = solidLines (lines text) := by rw [← atStart]

theorem solidLines_lines_joinLines {texts : List (List Char)}
    (single : ∀ line ∈ texts, '\n' ∉ line) :
    solidLines (lines (joinLines texts)) = solidLines texts := by
  rcases List.eq_nil_or_concat texts with rfl | ⟨front, last, rfl⟩
  · rfl
  · rw [List.concat_eq_append] at single ⊢
    have ended : solidLines (front.map endLine) = solidLines front := by
      simp [solidLines, Function.comp_def, trim_endLine]
    rw [lines_joinLines single, solidLines_append, solidLines_append, ended]
    cases last with
    | nil => rfl
    | cons c last => rfl

/-! ## Lines of prose -/

/-- The lines of the prose are the unmarked lines of the text. -/
theorem solidLines_prose (text : String) :
    solidLines (lines (prose text).toList) =
      solidLines ((lines text.toList).filter fun line => !isMarked line) := by
  have single : ∀ line ∈ (lines text.toList).filter fun line => !isMarked line, '\n' ∉ line :=
    fun line member => not_mem_linesFrom List.not_mem_nil (List.mem_of_mem_filter member)
  rw [prose, String.toList_ofList, solidLines_lines_trim, solidLines_lines_joinLines single]

theorem isMarked_of_mem_prose {text : String} {line : List Char}
    (member : line ∈ lines (prose text).toList) : isMarked line = false := by
  rw [isMarked_eq]
  by_cases blank : trim line = []
  · rw [blank]
    rfl
  · have solid := mem_solidLines member blank
    rw [solidLines_prose] at solid
    obtain ⟨written, kept, same⟩ := List.mem_map.1 (List.mem_of_mem_filter solid)
    have unmarked := (List.mem_filter.1 kept).2
    rw [isMarked_eq, same] at unmarked
    simpa using unmarked

theorem splitVerb_of_unmarked {line : List Char} (unmarked : isMarked line = false) :
    splitVerb line = none := by
  rw [Option.eq_none_iff_forall_ne_some]
  rintro ⟨verb, rest⟩ found
  obtain ⟨text, trimmed⟩ := trim_of_splitVerb found
  rw [isMarked_eq, trimmed] at unmarked
  cases unmarked

theorem trim_ne_nil_of_isMarked {line : List Char} (marked : isMarked line = true) :
    trim line ≠ [] := by
  intro blank
  rw [isMarked_eq, blank] at marked
  cases marked

/-- Prose has no annotations. One more marked line in a text does not change its prose, and one more
line without a mark does not change its annotations. -/
theorem prose_apart_from_annotations (text : String) :
    annotations (prose text) = [] ∧
      ∀ (line : List Char) (longer : String), '\n' ∉ line →
        InsertsLine line text.toList longer.toList →
        (isMarked line = true → prose longer = prose text) ∧
          (isMarked line = false → annotations longer = annotations text) := by
  refine ⟨?_, fun line longer own inserts => ?_⟩
  · rw [annotations, List.filterMap_eq_nil_iff]
    intro line member
    rw [Option.eq_none_iff_forall_ne_some]
    intro note found
    have marked := isMarked_of_lineAnnotation? found
    rw [isMarked_of_mem_prose member] at marked
    cases marked
  · have prose := inserts.prose_eq own
    have annotations := inserts.annotations_eq own
    rw [String.ofList_toList, String.ofList_toList] at prose annotations
    exact ⟨prose, annotations⟩

/-- A route after a last line that ends with a carriage return, and a remark before it. -/
theorem prose_apart_from_get_pets :
    prose "Lists pets.\r\n !get /pets" = prose "Lists pets.\r" ∧
      annotations "Slow! \nLists pets.\r" = annotations "Lists pets.\r" := by
  obtain ⟨-, inserts⟩ := prose_apart_from_annotations "Lists pets.\r"
  have route : InsertsLine " !get /pets".toList "Lists pets.\r".toList
      "Lists pets.\r\n !get /pets".toList :=
    .after "Lists pets.\r".toList
  have remark : InsertsLine "Slow! ".toList "Lists pets.\r".toList
      "Slow! \nLists pets.\r".toList :=
    @InsertsLine.before _ [] _ (Or.inl rfl)
  exact ⟨(inserts _ _ (by decide) route).1 (by decide),
    (inserts _ _ (by decide) remark).2 (by decide)⟩

/-- The prose of a text has the unmarked lines of the text, in their order. So it has all lines that
are no annotations exactly if every marked line is one: a line that starts with the marker and has
no verb is lost. -/
theorem prose_keeps_lines_iff (text : String) :
    solidLines (lines (prose text).toList) =
        solidLines ((lines text.toList).filter fun line => !isMarked line) ∧
      ((solidLines ((lines text.toList).filter fun line => (splitVerb line).isNone)).Sublist
          ((lines (prose text).toList).map trim) ↔
        ∀ line ∈ lines text.toList, isMarked line = true → (splitVerb line).isSome = true) := by
  refine ⟨solidLines_prose text, fun kept line member marked => ?_, fun verbs => ?_⟩
  · by_contra verbless
    have listed : trim line ∈
        solidLines ((lines text.toList).filter fun line => (splitVerb line).isNone) :=
      mem_solidLines (List.mem_filter.2 ⟨member, by simpa using verbless⟩)
        (trim_ne_nil_of_isMarked marked)
    obtain ⟨other, inProse, same⟩ := List.mem_map.1 (kept.subset listed)
    have unmarked := isMarked_of_mem_prose inProse
    rw [isMarked_eq, same, ← isMarked_eq, marked] at unmarked
    cases unmarked
  · have agree : ∀ line ∈ lines text.toList, (splitVerb line).isNone = !isMarked line := by
      intro line member
      cases marked : isMarked line with
      | false => rw [splitVerb_of_unmarked marked]; rfl
      | true => simpa using verbs line member marked
    rw [List.filter_congr agree, ← solidLines_prose]
    exact List.filter_sublist

/-- An image at the start of a line is no annotation, and it is lost. -/
theorem prose_loses_image_line :
    splitVerb "![photo](pet.png)".toList = none ∧
      ¬ (solidLines ((lines "A pet.\n![photo](pet.png)".toList).filter
          fun line => (splitVerb line).isNone)).Sublist
        ((lines (prose "A pet.\n![photo](pet.png)").toList).map trim) := by
  have verbless : splitVerb "![photo](pet.png)".toList = none := by decide
  refine ⟨verbless, fun kept => ?_⟩
  have verb := (prose_keeps_lines_iff "A pet.\n![photo](pet.png)").2.1 kept
    "![photo](pet.png)".toList (by decide) (by decide)
  rw [verbless] at verb
  cases verb

end DocApi
