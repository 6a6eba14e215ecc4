import DocApi.Proofs.Spec.Prose
import Mathlib.Data.List.DropRight

/-!
# Empty lines in prose

Prose is trimmed, so the empty lines at its ends do not matter. An empty line between two lines of
prose does: the joined lines are the same without their empty lines exactly if none of these stands
between others.
-/

namespace DocApi

/-! ## Lines without blanks around them -/

theorem eq_of_trim_eq {line short rest : List Char} (tight : trim line = line)
    (cut : line = short ++ rest) (same : trim short = trim line) : short = line := by
  have shorter := length_trim_le short
  rw [same, tight] at shorter
  have whole := congrArg List.length cut
  rw [List.length_append] at whole
  obtain rfl : rest = [] := List.eq_nil_of_length_eq_zero (by omega)
  rw [cut, List.append_nil]

section Tight

variable {line : List Char} (tight : trim line = line)
include tight

theorem endLine_of_tight : endLine line = line := by
  obtain ⟨blanks, -, cut⟩ := exists_endLine line
  exact eq_of_trim_eq tight cut (trim_endLine line)

theorem trimEnd_of_tight : trimEnd line = line := by
  obtain ⟨blanks, -, cut⟩ := exists_trimEnd line
  exact eq_of_trim_eq tight cut (trim_trimEnd line)

theorem endsSolid_of_tight (nonempty : line ≠ []) : EndsSolid line := by
  have ends := trimEnd_eq_nil_or_endsSolid line
  rw [trimEnd_of_tight tight] at ends
  exact ends.resolve_left nonempty

end Tight

theorem solid_of_tight {c : Char} {line : List Char} (tight : trim (c :: line) = c :: line) :
    isBlank c = false := by
  by_contra blank
  have shorter := length_trim_le line
  rw [← trim_cons_of_blank (by simpa using blank), tight, List.length_cons] at shorter
  omega

/-! ## Empty lines at the ends -/

theorem exists_joinLines_cons (c : Char) (line : List Char) (texts : List (List Char)) :
    ∃ rest, joinLines ((c :: line) :: texts) = c :: rest :=
  ⟨joinLines (line :: texts), List.intercalate_cons_cons_left⟩

theorem trim_joinLines_nil_cons (texts : List (List Char)) :
    trim (joinLines ([] :: texts)) = trim (joinLines texts) := by
  by_cases more : texts = []
  · rw [more]
    rfl
  · rw [joinLines, List.intercalate_cons_of_ne_nil more, List.nil_append, List.singleton_append,
      trim_cons_of_blank (by decide), joinLines]

theorem trim_joinLines_nils_append {above : List (List Char)} (empty : ∀ line ∈ above, line = [])
    (texts : List (List Char)) : trim (joinLines (above ++ texts)) = trim (joinLines texts) := by
  induction above with
  | nil => rfl
  | cons line above induction =>
      obtain ⟨rfl, others⟩ := List.forall_mem_cons.1 empty
      rw [List.cons_append, trim_joinLines_nil_cons, induction others]

theorem trim_joinLines_append_nils {below : List (List Char)} (empty : ∀ line ∈ below, line = [])
    (texts : List (List Char)) : trim (joinLines (texts ++ below)) = trim (joinLines texts) := by
  induction below using List.reverseRecOn with
  | nil => rw [List.append_nil]
  | append_singleton below line induction =>
      obtain rfl : line = [] := empty line (by simp)
      rw [← List.append_assoc, trim_joinLines_nil]
      exact induction fun other member => empty other (List.mem_append_left _ member)

/-- No empty line stands at either end. -/
structure Compact (texts : List (List Char)) : Prop where
  first : ∀ line ∈ texts.head?, line ≠ []
  last : ∀ line ∈ texts.getLast?, line ≠ []

/-- Between the empty lines at the ends stand compact ones. -/
theorem exists_compact (texts : List (List Char)) :
    ∃ above core below, texts = above ++ core ++ below ∧ Compact core ∧
      (∀ line ∈ above, line = []) ∧ ∀ line ∈ below, line = [] := by
  let later := texts.dropWhile List.isEmpty
  have back : later.rdropWhile List.isEmpty ++ later.rtakeWhile List.isEmpty = later :=
    List.rdropWhile_append_rtakeWhile
  refine ⟨texts.takeWhile List.isEmpty, later.rdropWhile List.isEmpty,
    later.rtakeWhile List.isEmpty, ?_, ⟨?_, ?_⟩, ?_, ?_⟩
  · rw [List.append_assoc, back, List.takeWhile_append_dropWhile]
  · intro line first
    have front : later.head? = some line := by
      rw [← back, List.head?_append, first]
      rfl
    have kept := List.head?_dropWhile_not List.isEmpty texts
    rw [front] at kept
    simpa using kept
  · intro line last
    have nonempty : later.rdropWhile List.isEmpty ≠ [] := by
      rintro none
      rw [none] at last
      cases last
    have kept := List.rdropWhile_last_not List.isEmpty later nonempty
    rw [List.getLast?_eq_some_getLast nonempty, Option.mem_some_iff] at last
    rw [last] at kept
    simpa using kept
  · exact fun line member => by simpa using List.mem_takeWhile_imp member
  · exact fun line member => by simpa using List.mem_rtakeWhile_imp member

theorem Compact.filter (texts : List (List Char)) :
    Compact (texts.filter fun line => !line.isEmpty) where
  first line first := by simpa using (List.mem_filter.1 (List.mem_of_mem_head? first)).2
  last line last := by simpa using (List.mem_filter.1 (List.mem_of_getLast? last)).2

section Joined

variable {texts : List (List Char)} (compact : Compact texts)
  (tight : ∀ line ∈ texts, trim line = line) (single : ∀ line ∈ texts, '\n' ∉ line)
include compact tight

theorem Compact.endsSolid_joinLines (nonempty : texts ≠ []) : EndsSolid (joinLines texts) := by
  obtain ⟨front, last, rfl⟩ := (List.eq_nil_or_concat texts).resolve_left nonempty
  rw [List.concat_eq_append] at *
  have ends := endsSolid_of_tight (tight last (by simp)) (compact.last last (by simp))
  rw [joinLines_concat]
  exact ends.append _

theorem Compact.trim_joinLines : trim (joinLines texts) = joinLines texts := by
  cases texts with
  | nil => rfl
  | cons first others =>
      obtain ⟨c, line, rfl⟩ := List.exists_cons_of_ne_nil (compact.first first rfl)
      have solid := solid_of_tight (tight (c :: line) List.mem_cons_self)
      have ends := compact.endsSolid_joinLines tight (List.cons_ne_nil _ _)
      obtain ⟨rest, start⟩ := exists_joinLines_cons c line others
      rw [start] at ends ⊢
      exact trim_eq_self solid ends

include single

/-- The lines of joined lines are the lines again. -/
theorem Compact.lines_joinLines : lines (joinLines texts) = texts := by
  rcases List.eq_nil_or_concat texts with rfl | ⟨front, last, rfl⟩
  · rfl
  · rw [List.concat_eq_append] at *
    have nonempty : last.isEmpty = false := by simpa using compact.last last (by simp)
    have ended : front.map endLine = front.map id :=
      List.map_congr_left fun line member => endLine_of_tight (tight line (by simp [member]))
    rw [DocApi.lines_joinLines single, nonempty, ended, List.map_id]
    rfl

end Joined

/-! ## An empty line between others -/

/-- A line of prose: it is neither empty nor marked. -/
def IsProse (line : List Char) : Prop := line ≠ [] ∧ isMarked line = false

/-- An empty line has prose above it and prose below it. -/
def Parted (texts : List (List Char)) : Prop :=
  ∃ above below, texts = above ++ [] :: below ∧ (∃ line ∈ above, IsProse line) ∧
    ∃ line ∈ below, IsProse line

theorem exists_isProse_filter_iff (texts : List (List Char)) :
    (∃ line ∈ texts.filter fun line => !isMarked line, IsProse line) ↔
      ∃ line ∈ texts, IsProse line := by
  constructor
  · rintro ⟨line, member, isProse⟩
    exact ⟨line, List.mem_of_mem_filter member, isProse⟩
  · rintro ⟨line, member, isProse⟩
    exact ⟨line, List.mem_filter.2 ⟨member, by simp [isProse.2]⟩, isProse⟩

/-- Marked lines do not matter. -/
theorem parted_filter_iff (texts : List (List Char)) :
    Parted (texts.filter fun line => !isMarked line) ↔ Parted texts := by
  constructor
  · rintro ⟨above, below, split, hasAbove, hasBelow⟩
    obtain ⟨front, back, rfl, rfl, later⟩ := List.filter_eq_append_iff.1 split
    obtain ⟨marked, rest, rfl, -, -, rfl⟩ := List.filter_eq_cons_iff.1 later
    rw [exists_isProse_filter_iff] at hasAbove hasBelow
    obtain ⟨line, member, isProse⟩ := hasAbove
    exact ⟨front ++ marked, rest, by simp, ⟨line, List.mem_append_left _ member, isProse⟩, hasBelow⟩
  · rintro ⟨above, below, rfl, hasAbove, hasBelow⟩
    have empty : isMarked [] = false := rfl
    refine ⟨_, _, ?_, (exists_isProse_filter_iff above).2 hasAbove,
      (exists_isProse_filter_iff below).2 hasBelow⟩
    rw [List.filter_append, List.filter_cons_of_pos (by simp [empty])]

section Core

variable {above core below : List (List Char)} (emptyAbove : ∀ line ∈ above, line = [])
  (emptyBelow : ∀ line ∈ below, line = [])
include emptyAbove emptyBelow

theorem nil_mem_of_parted (parted : Parted (above ++ core ++ below)) : [] ∈ core := by
  obtain ⟨front, back, split, ⟨upper, inFront, upperProse⟩, ⟨lower, inBack, lowerProse⟩⟩ := parted
  rw [List.append_assoc] at split
  rcases List.append_eq_append_iff.1 split with ⟨start, rfl, inside⟩ | ⟨start, rfl, -⟩
  · rcases List.append_eq_append_iff.1 inside with ⟨rest, rfl, rfl⟩ | ⟨rest, rfl, later⟩
    · exact absurd (emptyBelow lower (by simp [inBack])) lowerProse.1
    · cases rest with
      | nil =>
          have listed : lower ∈ below := by
            rw [List.nil_append] at later
            exact later ▸ List.mem_cons_of_mem [] inBack
          exact absurd (emptyBelow lower listed) lowerProse.1
      | cons line rest =>
          obtain ⟨rfl, -⟩ := List.cons_eq_cons.1 later
          simp
  · exact absurd (emptyAbove upper (by simp [inFront])) upperProse.1

end Core

/-- Every empty line among compact lines parts the first of them from the last. -/
theorem Compact.parted {core : List (List Char)} (compact : Compact core)
    (unmarked : ∀ line ∈ core, isMarked line = false) (empty : [] ∈ core)
    (above below : List (List Char)) : Parted (above ++ core ++ below) := by
  obtain ⟨front, back, rfl⟩ := List.mem_iff_append.1 empty
  have hasFront : ∃ line ∈ front, IsProse line := by
    cases front with
    | nil => exact absurd rfl (compact.first [] rfl)
    | cons upper front =>
        exact ⟨upper, List.mem_cons_self, compact.first upper rfl, unmarked upper (by simp)⟩
  have hasBack : ∃ line ∈ back, IsProse line := by
    rcases List.eq_nil_or_concat back with rfl | ⟨back, lower, rfl⟩
    · exact absurd rfl (compact.last [] (by simp))
    · rw [List.concat_eq_append] at *
      have last : (front ++ [] :: (back ++ [lower])).getLast? = some lower := by
        simp [List.getLast?_append, List.getLast?_cons]
      exact ⟨lower, by simp, compact.last lower last, unmarked lower (by simp)⟩
  obtain ⟨upper, inFront, upperProse⟩ := hasFront
  obtain ⟨lower, inBack, lowerProse⟩ := hasBack
  exact ⟨above ++ front, back ++ below, by simp,
    ⟨upper, List.mem_append_right above inFront, upperProse⟩,
    ⟨lower, List.mem_append_left below inBack, lowerProse⟩⟩

/-- Compact lines are joined to the same text without the empty ones only if none is empty. -/
theorem Compact.joinLines_filter_eq_iff {core : List (List Char)} (compact : Compact core)
    (tight : ∀ line ∈ core, trim line = line) (single : ∀ line ∈ core, '\n' ∉ line) :
    joinLines (core.filter fun line => !line.isEmpty) = joinLines core ↔ [] ∉ core := by
  constructor
  · intro same empty
    have read := congrArg lines same
    rw [compact.lines_joinLines tight single,
      (Compact.filter core).lines_joinLines
        (fun line member => tight line (List.mem_of_mem_filter member))
        fun line member => single line (List.mem_of_mem_filter member)] at read
    rw [← read] at empty
    simpa using (List.mem_filter.1 empty).2
  · intro full
    rw [List.filter_eq_self.2 fun line member => ?_]
    cases line with
    | nil => exact absurd member full
    | cons c line => rfl

theorem filter_nonempty_of_empty {texts : List (List Char)} (empty : ∀ line ∈ texts, line = []) :
    texts.filter (fun line => !line.isEmpty) = [] :=
  List.filter_eq_nil_iff.2 fun line member => by simp [empty line member]

/-- Leaving out the empty lines changes what unmarked lines are joined to, up to the ends, exactly
if one of them stands between others. -/
theorem trim_joinLines_filter_eq_iff {texts : List (List Char)}
    (tight : ∀ line ∈ texts, trim line = line) (single : ∀ line ∈ texts, '\n' ∉ line)
    (unmarked : ∀ line ∈ texts, isMarked line = false) :
    trim (joinLines (texts.filter fun line => !line.isEmpty)) = trim (joinLines texts) ↔
      ¬ Parted texts := by
  obtain ⟨above, core, below, rfl, compact, emptyAbove, emptyBelow⟩ := exists_compact texts
  have inside : core ⊆ above ++ core ++ below := fun line member => by simp [member]
  have tightCore : ∀ line ∈ core, trim line = line :=
    fun line member => tight line (inside member)
  have parted : Parted (above ++ core ++ below) ↔ [] ∈ core :=
    ⟨nil_mem_of_parted emptyAbove emptyBelow, fun empty =>
      compact.parted (fun line member => unmarked line (inside member)) empty above below⟩
  have kept : (above ++ core ++ below).filter (fun line => !line.isEmpty) =
      core.filter fun line => !line.isEmpty := by
    rw [List.filter_append, List.filter_append, filter_nonempty_of_empty emptyAbove,
      filter_nonempty_of_empty emptyBelow, List.nil_append, List.append_nil]
  rw [parted, kept, trim_joinLines_append_nils emptyBelow, trim_joinLines_nils_append emptyAbove,
    compact.trim_joinLines tightCore,
    (Compact.filter core).trim_joinLines
      fun line member => tightCore line (List.mem_of_mem_filter member),
    compact.joinLines_filter_eq_iff tightCore fun line member => single line (inside member)]

end DocApi
