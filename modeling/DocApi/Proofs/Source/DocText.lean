import DocApi.Annotation.Line
import DocApi.Proofs.Text
import DocApi.Source.DocText

/-!
# The lines of a doc comment

A doc text is read line by line. The annotations of joined lines are those of each line by itself,
and the prose of joined lines leaves out the marked ones; so one more annotation line changes the
annotations in its place and the prose not at all.
-/

namespace DocApi

/-! ## Blanks around a line -/

/-- Blanks on either side of a line do not matter for its mark. -/
theorem isMarked_eq (line : List Char) : isMarked line = ((trim line).head? == some '!') := by
  rw [isMarked, trim]
  cases start : trimStart line with
  | nil => rfl
  | cons c rest =>
      have solid : isBlank c = false := solid_of_trimStart start
      have kept : trimEnd ([c] ++ rest) = [c] ++ trimEnd rest :=
        trimEnd_append_of_endsSolid ⟨[], c, rfl, solid⟩ rest
      rw [List.singleton_append, List.singleton_append] at kept
      rw [kept, List.head?_cons, List.head?_cons]

theorem lineAnnotation?_of_trim_eq {first second : List Char} (same : trim first = trim second) :
    lineAnnotation? first = lineAnnotation? second := by
  have verbs : splitVerb first = splitVerb second := by rw [splitVerb, splitVerb, same]
  rw [lineAnnotation?, lineAnnotation?, parseLine, parseLine, verbs]

/-! ## Carriage returns at the end -/

/-- A line without the carriage return at its end. -/
def endLine (line : List Char) : List Char := (dropReturn line.reverse).reverse

theorem exists_endLine (line : List Char) :
    ∃ blanks, (∀ c ∈ blanks, isBlank c = true) ∧ line = endLine line ++ blanks := by
  rw [endLine, dropReturn.eq_def]
  split
  · rename_i rest reversed
    refine ⟨['\r'], fun c member => ?_, ?_⟩
    · obtain rfl := List.mem_singleton.1 member
      decide
    · rw [← List.reverse_inj, reversed]
      simp
  · exact ⟨[], nofun, by simp⟩

theorem trim_endLine (line : List Char) : trim (endLine line) = trim line := by
  obtain ⟨blanks, blank, cut⟩ := exists_endLine line
  rw [show trim line = trim (endLine line ++ blanks) by rw [← cut], trim_append _ blank]

theorem isMarked_endLine (line : List Char) : isMarked (endLine line) = isMarked line := by
  rw [isMarked_eq, isMarked_eq, trim_endLine]

theorem lineAnnotation?_endLine (line : List Char) :
    lineAnnotation? (endLine line) = lineAnnotation? line :=
  lineAnnotation?_of_trim_eq (trim_endLine line)

/-! ## Joined lines -/

theorem joinLines_concat (front : List (List Char)) (last : List Char) :
    joinLines (front ++ [last]) = front.flatMap (· ++ ['\n']) ++ last := by
  induction front with
  | nil => exact List.intercalate_singleton
  | cons line front induction =>
      have step : joinLines (line :: (front ++ [last])) =
          line ++ ['\n'] ++ joinLines (front ++ [last]) :=
        List.intercalate_cons_of_ne_nil (by simp)
      rw [List.cons_append, step, induction, List.flatMap_cons]
      simp

theorem linesFrom_cons {c : Char} (other : c ≠ '\n') (pending text : List Char) :
    linesFrom pending (c :: text) = linesFrom (c :: pending) text := by
  rw [linesFrom]
  exact other

theorem linesFrom_append {line : List Char} (single : '\n' ∉ line) (pending text : List Char) :
    linesFrom pending (line ++ text) = linesFrom (line.reverse ++ pending) text := by
  induction line generalizing pending with
  | nil => rfl
  | cons c line induction =>
      rw [List.mem_cons, not_or] at single
      rw [List.cons_append, linesFrom_cons (Ne.symm single.1), induction single.2]
      simp

/-- The lines of joined lines: each without its carriage return, but for the last, which does not
count when it is empty. -/
theorem lines_joinLines {front : List (List Char)} {last : List Char}
    (single : ∀ line ∈ front ++ [last], '\n' ∉ line) :
    lines (joinLines (front ++ [last])) =
      front.map endLine ++ if last.isEmpty then [] else [last] := by
  rw [joinLines_concat]
  induction front with
  | nil =>
      have read := linesFrom_append (single last (by simp)) [] []
      rw [List.append_nil, List.append_nil, linesFrom] at read
      simpa [lines] using read
  | cons line front induction =>
      have later := induction fun other member => single other (List.mem_cons_of_mem line member)
      have read : lines (line ++ '\n' :: (front.flatMap (· ++ ['\n']) ++ last)) =
          endLine line :: lines (front.flatMap (· ++ ['\n']) ++ last) := by
        rw [lines, linesFrom_append (single line List.mem_cons_self), List.append_nil, linesFrom]
        rfl
      rw [List.map_cons, List.cons_append, ← later, ← read]
      simp

theorem trim_joinLines_endLine (front : List (List Char)) (last : List Char) :
    trim (joinLines (front ++ [endLine last])) = trim (joinLines (front ++ [last])) := by
  obtain ⟨blanks, blank, cut⟩ := exists_endLine last
  have longer : joinLines (front ++ [last]) = joinLines (front ++ [endLine last]) ++ blanks := by
    rw [joinLines_concat, joinLines_concat, List.append_assoc, ← cut]
  rw [longer, trim_append _ blank]

theorem trim_joinLines_nil (front : List (List Char)) :
    trim (joinLines (front ++ [[]])) = trim (joinLines front) := by
  rcases List.eq_nil_or_concat front with rfl | ⟨front, last, rfl⟩
  · rfl
  · have longer : joinLines (front ++ [last] ++ [[]]) = joinLines (front ++ [last]) ++ ['\n'] := by
      rw [joinLines_concat, joinLines_concat]
      simp
    have blank : ∀ c ∈ ['\n'], isBlank c = true := by
      intro c member
      obtain rfl := List.mem_singleton.1 member
      decide
    rw [List.concat_eq_append, longer, trim_append _ blank]

section Joined

variable {texts : List (List Char)} (single : ∀ line ∈ texts, '\n' ∉ line)
include single

/-- The annotations of joined lines are those of each line. -/
theorem annotations_joinLines :
    annotations (String.ofList (joinLines texts)) = texts.filterMap lineAnnotation? := by
  rw [annotations, String.toList_ofList]
  rcases List.eq_nil_or_concat texts with rfl | ⟨front, last, rfl⟩
  · rfl
  · rw [List.concat_eq_append] at single ⊢
    rw [lines_joinLines single, List.filterMap_append, List.filterMap_append, List.filterMap_map]
    congr 1
    · exact List.filterMap_congr fun line _ => lineAnnotation?_endLine line
    · cases last with
      | nil => rfl
      | cons c last => rfl

/-- The prose of joined lines comes from the lines that are not marked. -/
theorem prose_joinLines :
    prose (String.ofList (joinLines texts)) =
      String.ofList (trim (joinLines ((texts.map endLine).filter fun line => !isMarked line))) := by
  rw [prose, String.toList_ofList]
  rcases List.eq_nil_or_concat texts with rfl | ⟨front, last, rfl⟩
  · rfl
  · rw [List.concat_eq_append] at single ⊢
    rw [lines_joinLines single, List.filter_append, List.map_append, List.filter_append]
    congr 1
    by_cases marked : isMarked last = true
    · have nonempty : last.isEmpty = false := by
        cases last with
        | nil => cases marked
        | cons c last => rfl
      simp [nonempty, isMarked_endLine, marked]
    · cases last with
      | nil =>
          change trim (joinLines (_ ++ [])) = trim (joinLines (_ ++ [[]]))
          rw [List.append_nil, trim_joinLines_nil]
      | cons c last =>
          simp only [List.isEmpty_cons, Bool.false_eq_true, if_false, List.map_cons, List.map_nil,
            List.filter_cons, List.filter_nil, isMarked_endLine, marked, Bool.not_false, if_true]
          exact (trim_joinLines_endLine _ _).symm

end Joined

/-! ## The lines of doc comments -/

theorem doc_ne_empty : "doc" ≠ "" := by decide

theorem not_mem_linesFrom {pending text line : List Char} (free : '\n' ∉ pending)
    (member : line ∈ linesFrom pending text) : '\n' ∉ line := by
  induction text generalizing pending with
  | nil =>
      rw [linesFrom] at member
      split at member
      · cases member
      · obtain rfl := List.mem_singleton.1 member
        simpa using free
  | cons c text induction =>
      by_cases newline : c = '\n'
      · subst newline
        rw [linesFrom, List.mem_cons] at member
        rcases member with rfl | later
        · obtain ⟨blanks, -, cut⟩ := exists_endLine pending.reverse
          intro inside
          have whole : '\n' ∈ pending.reverse := by
            rw [cut]
            exact List.mem_append_left blanks (by simpa [endLine] using inside)
          exact free (List.mem_reverse.1 whole)
        · exact induction List.not_mem_nil later
      · rw [linesFrom_cons newline] at member
        exact induction (by simp [free, Ne.symm newline]) member

theorem trim_subset (line : List Char) : trim line ⊆ line := by
  intro c member
  rw [trim, trimEnd, List.mem_reverse] at member
  have started := (List.dropWhile_sublist _).subset member
  exact (List.dropWhile_sublist _).subset (List.mem_reverse.1 started)

namespace Source

theorem dropOneSpace_subset (line : List Char) : dropOneSpace line ⊆ line := by
  rw [dropOneSpace.eq_def]
  split
  · exact List.subset_cons_self _ _
  · exact List.Subset.refl _

theorem dropGutter_subset (line : List Char) : dropGutter line ⊆ line := by
  have kept := trim_subset line
  rw [dropGutter]
  split
  · rename_i rest starred
    rw [starred] at kept
    exact fun c inside => kept (List.mem_cons_of_mem '*' (dropOneSpace_subset rest inside))
  · exact kept

theorem not_mem_commentLines {comment line : List Char} (member : line ∈ commentLines comment) :
    '\n' ∉ line := by
  obtain ⟨written, listed, rfl⟩ := List.mem_map.1 member
  have free : '\n' ∉ written := not_mem_linesFrom List.not_mem_nil listed
  split
  · exact fun inside => free (dropGutter_subset written inside)
  · exact fun inside => free (dropOneSpace_subset written inside)

/-- A comment of one line, after its first blank. -/
theorem commentLines_singleton {line : List Char} (single : '\n' ∉ line) :
    commentLines (' ' :: line) = [line] := by
  have free : '\n' ∉ ' ' :: line := by simp [single]
  have whole := linesFrom_append free [] []
  rw [List.append_nil, List.append_nil, linesFrom] at whole
  have one : lines (' ' :: line) = [' ' :: line] := by simpa [lines] using whole
  have undivided : (' ' :: line).contains '\n' = false := by simpa using free
  rw [commentLines, undivided, one]
  rfl

/-- The lines of the doc comments of one side. -/
def docLines (inner : Bool) (attributes : List Attribute) : List (List Char) :=
  (attributes.filterMap (Attribute.comment? inner)).flatMap commentLines

theorem docLines_append (inner : Bool) (first second : List Attribute) :
    docLines inner (first ++ second) = docLines inner first ++ docLines inner second := by
  simp [docLines]

theorem not_mem_docLines {inner : Bool} {attributes : List Attribute} :
    ∀ line ∈ docLines inner attributes, '\n' ∉ line := by
  intro line member
  obtain ⟨comment, -, listed⟩ := List.mem_flatMap.1 member
  exact not_mem_commentLines listed

theorem annotations_docText (inner : Bool) (attributes : List Attribute) :
    annotations (docText inner attributes) =
      (docLines inner attributes).filterMap lineAnnotation? :=
  annotations_joinLines not_mem_docLines

theorem prose_docText (inner : Bool) (attributes : List Attribute) :
    prose (docText inner attributes) = String.ofList (trim (joinLines
      (((docLines inner attributes).map endLine).filter fun line => !isMarked line))) :=
  prose_joinLines not_mem_docLines

end Source

end DocApi
