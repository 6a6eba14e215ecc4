import DocApi.Proofs.Spec.EmptyLines

/-!
# Line comments and block comments

The same lines can be written as line comments, one for each line, or as one block comment with a
star in front of every line. Both have the same annotations, whatever the lines are. Their prose has
the same lines too, empty ones apart: an empty line comment has no line at all, while the block
comment keeps the empty line. So the prose is the same exactly if no empty line parts the prose.
-/

namespace DocApi

/-! ## The two forms of a comment -/

namespace Source

/-- A doc comment with a text. -/
def docComment (inner : Bool) (text : List Char) : Attribute where
  inner := inner
  name := some ⟨"doc", false, doc_ne_empty⟩
  content := .text (String.ofList text)

/-- Lines as line comments. A blank stands before each line; nothing stands in an empty one. -/
def lineComments (inner : Bool) (texts : List (List Char)) : List Attribute :=
  texts.map fun line => docComment inner (if line.isEmpty then [] else ' ' :: line)

/-- A line of a block comment, behind its star. -/
def starred (line : List Char) : List Char := ' ' :: '*' :: ' ' :: line

/-- Lines as a block comment: each behind its star, and all of them between newlines. -/
def blockComment (inner : Bool) (texts : List (List Char)) : Attribute :=
  docComment inner ('\n' :: texts.flatMap (fun line => starred line ++ ['\n']) ++ [' '])

theorem docLines_docComment (inner : Bool) (text : List Char) (attributes : List Attribute) :
    docLines inner (docComment inner text :: attributes) =
      commentLines text ++ docLines inner attributes := by
  have comment : Attribute.comment? inner (docComment inner text) = some text := by
    simp [Attribute.comment?, docComment, Attribute.isNamed, Ident.isWord]
  rw [docLines, List.filterMap_cons_some comment, List.flatMap_cons, docLines]

theorem dropGutter_endLine (line : List Char) : dropGutter (endLine line) = dropGutter line := by
  rw [dropGutter, dropGutter, trim_endLine]

/-- Behind the star, a line loses the blanks at its end. -/
theorem dropGutter_starred (line : List Char) : dropGutter (starred line) = trimEnd line := by
  have trimmed : trim (starred line) = '*' :: trimEnd (' ' :: line) := by
    have star : EndsSolid ['*'] := ⟨[], '*', rfl, by decide⟩
    rw [starred, trim_cons_of_blank (by decide), trim, trimStart_of_solid (by decide)]
    exact trimEnd_append_of_endsSolid star (' ' :: line)
  have dropped : dropOneSpace (trimEnd (' ' :: line)) = trimEnd line := by
    rw [trimEnd_cons_of_blank (by decide)]
    split
    · rename_i blank
      rw [List.isEmpty_iff.1 blank]
      rfl
    · rfl
  rw [dropGutter, trimmed]
  exact dropped

variable {texts : List (List Char)} (inner : Bool) (single : ∀ line ∈ texts, '\n' ∉ line)
include single

/-- An empty line comment has no line. -/
theorem docLines_lineComments :
    docLines inner (lineComments inner texts) = texts.filter fun line => !line.isEmpty := by
  induction texts with
  | nil => rfl
  | cons line texts induction =>
      obtain ⟨own, others⟩ := List.forall_mem_cons.1 single
      rw [lineComments, List.map_cons, docLines_docComment, ← lineComments, induction others]
      cases line with
      | nil => rfl
      | cons c line => exact congrArg (· ++ _) (commentLines_singleton own)

/-- A block comment has all of its lines, and an empty one on either side. -/
theorem docLines_blockComment :
    docLines inner [blockComment inner texts] = [] :: (texts.map trimEnd ++ [[]]) := by
  have written : '\n' :: texts.flatMap (fun line => starred line ++ ['\n']) ++ [' '] =
      joinLines ([] :: texts.map starred ++ [[' ']]) := by
    rw [joinLines_concat, List.flatMap_cons, List.flatMap_map]
    rfl
  have alone : ∀ line ∈ [] :: texts.map starred ++ [[' ']], '\n' ∉ line := by
    intro line member
    simp only [List.cons_append, List.mem_cons, List.mem_append, List.mem_map, List.not_mem_nil,
      or_false] at member
    rcases member with rfl | ⟨line, member, rfl⟩ | rfl
    · exact List.not_mem_nil
    · simpa [starred] using single line member
    · decide
  have read : lines (joinLines ([] :: texts.map starred ++ [[' ']])) =
      ([] :: texts.map starred).map endLine ++ [[' ']] :=
    lines_joinLines alone
  have several : (joinLines ([] :: texts.map starred ++ [[' ']])).contains '\n' = true := by
    rw [← written]
    rfl
  have gutters : (texts.map starred).map (dropGutter ∘ endLine) = texts.map trimEnd := by
    rw [List.map_map]
    exact List.map_congr_left fun line _ => by simp [dropGutter_endLine, dropGutter_starred]
  rw [blockComment, docLines_docComment, commentLines, written, several, read, if_pos rfl,
    List.map_append, List.map_map, List.map_cons, gutters]
  exact List.append_nil _

end Source

open Source

/-! ## Annotations -/

/-- Blank lines have no annotations, and blanks around a line do not matter. -/
theorem filterMap_lineAnnotation?_solidLines (texts : List (List Char)) :
    (solidLines texts).filterMap lineAnnotation? = texts.filterMap lineAnnotation? := by
  induction texts with
  | nil => rfl
  | cons line texts induction =>
      rw [solidLines_cons, List.filterMap_append, induction, ← List.filterMap_append]
      by_cases blank : trim line = []
      · have silent : lineAnnotation? [] = none := rfl
        have nothing : lineAnnotation? line = lineAnnotation? [] := lineAnnotation?_of_trim_eq blank
        simp [solidLines, blank, nothing, silent]
      · have kept : lineAnnotation? (trim line) = lineAnnotation? line :=
          lineAnnotation?_of_trim_eq (trim_trim line)
        simp [solidLines, blank, kept, List.filterMap_cons]

theorem solidLines_filter (texts : List (List Char)) :
    solidLines (texts.filter fun line => !line.isEmpty) = solidLines texts := by
  rw [solidLines, solidLines, List.filter_map, List.filter_map, List.filter_filter]
  congr 1
  refine List.filter_congr fun line _ => ?_
  cases line with
  | nil => rfl
  | cons c line => exact Bool.and_true _

/-- Empty lines around other lines do not count. -/
theorem solidLines_between (texts : List (List Char)) :
    solidLines ([] :: (texts ++ [[]])) = solidLines texts := by
  rw [solidLines_cons, solidLines_append]
  exact List.append_nil _

section Forms

variable {texts : List (List Char)} (inner : Bool) (single : ∀ line ∈ texts, '\n' ∉ line)
include single

theorem solidLines_docLines_lineComments :
    solidLines (docLines inner (lineComments inner texts)) = solidLines texts := by
  rw [docLines_lineComments inner single, solidLines_filter]

theorem solidLines_docLines_blockComment :
    solidLines (docLines inner [blockComment inner texts]) = solidLines texts := by
  rw [docLines_blockComment inner single, solidLines_between]
  simp [solidLines, trim_trimEnd, Function.comp_def]

end Forms

/-- Lines have the same annotations as line comments and as a block comment. -/
theorem annotations_of_comment_forms (inner : Bool) {texts : List (List Char)}
    (single : ∀ line ∈ texts, '\n' ∉ line) :
    annotations (docText inner (lineComments inner texts)) =
      annotations (docText inner [blockComment inner texts]) := by
  rw [annotations_docText, annotations_docText, ← filterMap_lineAnnotation?_solidLines,
    ← filterMap_lineAnnotation?_solidLines (docLines inner [_]),
    solidLines_docLines_lineComments inner single, solidLines_docLines_blockComment inner single]

/-- An indented route that ends with a carriage return, an empty line and a line with a star. -/
theorem annotations_of_indented_route :
    (∀ line ∈ ["\t!get /pets \r".toList, [], "* !ok".toList], '\n' ∉ line) ∧
      annotations (docText false
          (lineComments false ["\t!get /pets \r".toList, [], "* !ok".toList])) =
        annotations (docText false
          [blockComment false ["\t!get /pets \r".toList, [], "* !ok".toList]]) := by
  have single : ∀ line ∈ ["\t!get /pets \r".toList, [], "* !ok".toList], '\n' ∉ line := by decide
  exact ⟨single, annotations_of_comment_forms false single⟩

/-! ## Prose -/

section Prose

variable {texts : List (List Char)} (inner : Bool) (single : ∀ line ∈ texts, '\n' ∉ line)
  (tight : ∀ line ∈ texts, trim line = line)
include single tight

theorem proseLines_lineComments :
    ((docLines inner (lineComments inner texts)).map endLine).filter (fun line => !isMarked line) =
      (texts.filter fun line => !isMarked line).filter fun line => !line.isEmpty := by
  have ended : (texts.filter fun line => !line.isEmpty).map endLine =
      (texts.filter fun line => !line.isEmpty).map id :=
    List.map_congr_left fun line member =>
      endLine_of_tight (tight line (List.mem_of_mem_filter member))
  rw [docLines_lineComments inner single, ended, List.map_id, List.filter_filter,
    List.filter_filter]
  simp only [Bool.and_comm]

theorem proseLines_blockComment :
    ((docLines inner [blockComment inner texts]).map endLine).filter (fun line => !isMarked line) =
      [] :: ((texts.filter fun line => !isMarked line) ++ [[]]) := by
  have ended : (texts.map trimEnd).map endLine = texts.map id := by
    rw [List.map_map]
    refine List.map_congr_left fun line member => ?_
    rw [Function.comp_apply, trimEnd_of_tight (tight line member),
      endLine_of_tight (tight line member), id]
  rw [docLines_blockComment inner single, List.map_cons, List.map_append, ended, List.map_id,
    List.filter_cons_of_pos rfl, List.filter_append]
  rfl

end Prose

/-- Lines without blanks around them have the same prose as line comments and as a block comment,
exactly if no empty line parts the prose: the block comment keeps that line, which the line comments
lose. All other lines are the same. -/
theorem prose_of_comment_forms_iff (inner : Bool) {texts : List (List Char)}
    (single : ∀ line ∈ texts, '\n' ∉ line) (tight : ∀ line ∈ texts, trim line = line) :
    solidLines (lines (prose (docText inner (lineComments inner texts))).toList) =
        solidLines (lines (prose (docText inner [blockComment inner texts])).toList) ∧
      (prose (docText inner (lineComments inner texts)) =
          prose (docText inner [blockComment inner texts]) ↔
        ¬ Parted texts) := by
  have kept : ∀ line ∈ texts.filter fun line => !isMarked line,
      '\n' ∉ line ∧ trim line = line ∧ isMarked line = false := by
    intro line member
    have listed := List.mem_of_mem_filter member
    exact ⟨single line listed, tight line listed, by simpa using (List.mem_filter.1 member).2⟩
  have alone : ∀ line ∈ texts.filter fun line => !isMarked line, '\n' ∉ line :=
    fun line member => (kept line member).1
  have solid : ∀ lines' : List (List Char), (∀ line ∈ lines', '\n' ∉ line) →
      solidLines (lines (String.ofList (trim (joinLines lines'))).toList) = solidLines lines' := by
    intro lines' free
    rw [String.toList_ofList, solidLines_lines_trim, solidLines_lines_joinLines free]
  rw [prose_docText, prose_docText, proseLines_lineComments inner single tight,
    proseLines_blockComment inner single tight]
  constructor
  · rw [solid _ fun line member => alone line (List.mem_of_mem_filter member), solid _ ?_,
      solidLines_filter, solidLines_between]
    rw [List.forall_mem_cons, List.forall_mem_append]
    exact ⟨List.not_mem_nil, alone, by simp⟩
  · rw [trim_joinLines_nil_cons, trim_joinLines_nil, String.ofList_inj,
      trim_joinLines_filter_eq_iff (fun line member => (kept line member).2.1) alone
        fun line member => (kept line member).2.2,
      parted_filter_iff]

/-- An empty line between two sentences is lost in line comments. -/
theorem prose_of_parted_sentences :
    (∀ line ∈ ["A pet.".toList, [], "It barks.".toList], '\n' ∉ line) ∧
      (∀ line ∈ ["A pet.".toList, [], "It barks.".toList], trim line = line) ∧
      prose (docText false
          (lineComments false ["A pet.".toList, [], "It barks.".toList])) ≠
        prose (docText false
          [blockComment false ["A pet.".toList, [], "It barks.".toList]]) := by
  have single : ∀ line ∈ ["A pet.".toList, [], "It barks.".toList], '\n' ∉ line := by decide
  have tight : ∀ line ∈ ["A pet.".toList, [], "It barks.".toList], trim line = line := by decide
  have parted : Parted ["A pet.".toList, [], "It barks.".toList] :=
    ⟨["A pet.".toList], ["It barks.".toList], rfl, ⟨_, List.mem_singleton_self _, by decide, rfl⟩,
      ⟨_, List.mem_singleton_self _, by decide, rfl⟩⟩
  obtain ⟨-, same⟩ := prose_of_comment_forms_iff false single tight
  exact ⟨single, tight, fun equal => same.1 equal parted⟩

end DocApi
