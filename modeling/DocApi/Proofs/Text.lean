import DocApi.Text.Blank
import DocApi.Text.Split
import Mathlib.Data.List.DropRight

/-!
# Trimming and cutting

What the small operations on text do: letters and digits are no blanks, a letter stays a letter in
lower case, trimming only concerns blanks at the ends, and a text is put together again from the
parts it is cut into.
-/

namespace DocApi

/-! ## Letters -/

theorem isUpper_iff {c : Char} : c.isUpper = true ↔ 65 ≤ c.toNat ∧ c.toNat ≤ 90 :=
  decide_eq_true_iff

theorem isLower_iff {c : Char} : c.isLower = true ↔ 97 ≤ c.toNat ∧ c.toNat ≤ 122 := by
  change (decide (97 ≤ c.toNat) && decide (c.toNat ≤ 122)) = true ↔ _
  rw [Bool.and_eq_true, decide_eq_true_iff, decide_eq_true_iff]

theorem isDigit_iff {c : Char} : c.isDigit = true ↔ 48 ≤ c.toNat ∧ c.toNat ≤ 57 := by
  change (decide (48 ≤ c.toNat) && decide (c.toNat ≤ 57)) = true ↔ _
  rw [Bool.and_eq_true, decide_eq_true_iff, decide_eq_true_iff]

theorem isAlpha_iff {c : Char} : c.isAlpha = true ↔ c.isUpper = true ∨ c.isLower = true :=
  Bool.or_eq_true_iff

theorem isAlphanum_iff {c : Char} : c.isAlphanum = true ↔ c.isAlpha = true ∨ c.isDigit = true :=
  Bool.or_eq_true_iff

theorem solid_of_isAlphanum {c : Char} (member : c.isAlphanum = true) : isBlank c = false := by
  rw [isAlphanum_iff, isAlpha_iff, isUpper_iff, isLower_iff, isDigit_iff] at member
  simp [isBlank]
  omega

theorem toLower_of_not_isUpper {c : Char} (plain : c.isUpper = false) : c.toLower = c := by
  refine dif_neg fun bounds => ?_
  rw [isUpper_iff.2 bounds] at plain
  cases plain

theorem toNat_toLower_of_isUpper {c : Char} (upper : c.isUpper = true) :
    c.toLower.toNat = c.toNat + 32 := by
  have bounds := isUpper_iff.1 upper
  have small : c.val.toNat + 32 < 2 ^ 32 := by
    have same : c.val.toNat = c.toNat := rfl
    omega
  have lowered : c.toLower = ⟨c.val + 32, _⟩ := dif_pos bounds
  rw [lowered]
  exact (UInt32.toNat_add _ _).trans (Nat.mod_eq_of_lt small)

theorem isLower_toLower {c : Char} (upper : c.isUpper = true) : c.toLower.isLower = true := by
  have bounds := isUpper_iff.1 upper
  rw [isLower_iff, toNat_toLower_of_isUpper upper]
  omega

@[simp] theorem isAlpha_toLower (c : Char) : c.toLower.isAlpha = c.isAlpha := by
  cases upper : c.isUpper with
  | true => rw [isAlpha_iff.2 (.inr (isLower_toLower upper)), isAlpha_iff.2 (.inl upper)]
  | false => rw [toLower_of_not_isUpper upper]

@[simp] theorem toLower_toLower (c : Char) : c.toLower.toLower = c.toLower := by
  refine toLower_of_not_isUpper ?_
  cases upper : c.isUpper with
  | true =>
      have lower := isLower_iff.1 (isLower_toLower upper)
      rw [← Bool.not_eq_true, isUpper_iff]
      omega
  | false => rw [toLower_of_not_isUpper upper, upper]

/-! ## Trimming -/

/-- A text ends with a character that is no blank. -/
def EndsSolid (text : List Char) : Prop :=
  ∃ front last, text = front ++ [last] ∧ isBlank last = false

theorem trimStart_of_solid {c : Char} (solid : isBlank c = false) (text : List Char) :
    trimStart (c :: text) = c :: text := by
  simp [trimStart, solid]

theorem trimEnd_of_endsSolid {text : List Char} (solid : EndsSolid text) : trimEnd text = text := by
  obtain ⟨front, last, rfl, solid⟩ := solid
  simp [trimEnd, solid]

theorem trim_eq_self {c : Char} {text : List Char} (solid : isBlank c = false)
    (ends : EndsSolid (c :: text)) : trim (c :: text) = c :: text := by
  rw [trim, trimStart_of_solid solid, trimEnd_of_endsSolid ends]

theorem trim_cons_of_blank {c : Char} (blank : isBlank c = true) (text : List Char) :
    trim (c :: text) = trim text := by
  simp [trim, trimStart, blank]

theorem trimEnd_append_of_blank (text : List Char) {blanks : List Char}
    (blank : ∀ c ∈ blanks, isBlank c = true) : trimEnd (text ++ blanks) = trimEnd text := by
  have dropped : (blanks.reverse ++ text.reverse).dropWhile isBlank =
      text.reverse.dropWhile isBlank :=
    List.dropWhile_append_of_pos (by simpa using blank)
  rw [trimEnd, trimEnd, List.reverse_append, dropped]

theorem trimEnd_cons_of_blank {c : Char} (blank : isBlank c = true) (line : List Char) :
    trimEnd (c :: line) = if (trimEnd line).isEmpty then [] else c :: trimEnd line := by
  have nothing : [c].dropWhile isBlank = [] := by simp [blank]
  rw [trimEnd, trimEnd, List.reverse_cons, List.dropWhile_append, nothing, List.isEmpty_reverse]
  split
  · rfl
  · rw [List.reverse_append, List.reverse_singleton, List.singleton_append]

theorem EndsSolid.append {text : List Char} (ends : EndsSolid text) (before : List Char) :
    EndsSolid (before ++ text) := by
  obtain ⟨front, last, rfl, solid⟩ := ends
  exact ⟨before ++ front, last, by simp, solid⟩

theorem trimEnd_prefix (text : List Char) : trimEnd text <+: text := by
  have suffix : text.reverse.dropWhile isBlank <:+ text.reverse := List.dropWhile_suffix isBlank
  rw [← List.reverse_prefix, List.reverse_reverse] at suffix
  exact suffix

theorem trimEnd_eq_nil_or_endsSolid (text : List Char) :
    trimEnd text = [] ∨ EndsSolid (trimEnd text) := by
  rw [trimEnd]
  have head := List.head?_dropWhile_not isBlank text.reverse
  cases kept : text.reverse.dropWhile isBlank with
  | nil => exact Or.inl rfl
  | cons last front =>
      rw [kept] at head
      exact Or.inr ⟨front.reverse, last, List.reverse_cons, by simpa using head⟩

/-- A trimmed text has no blanks left at its ends. -/
theorem trim_trim (text : List Char) : trim (trim text) = trim text := by
  cases trimmed : trim text with
  | nil => rfl
  | cons c rest =>
      have ends : EndsSolid (c :: rest) := by
        rw [← trimmed]
        exact (trimEnd_eq_nil_or_endsSolid _).resolve_left fun empty => by
          rw [trim, empty] at trimmed
          cases trimmed
      have start : ∃ more, trimStart text = c :: more := by
        obtain ⟨more, whole⟩ := trimEnd_prefix (trimStart text)
        rw [← trim, trimmed] at whole
        exact ⟨rest ++ more, whole.symm⟩
      obtain ⟨more, start⟩ := start
      have head := List.head?_dropWhile_not isBlank text
      rw [← trimStart, start] at head
      exact trim_eq_self (by simpa using head) ends

theorem trimStart_append (text : List Char) {blanks : List Char}
    (blank : ∀ c ∈ blanks, isBlank c = true) :
    trimStart (text ++ blanks) =
      if (trimStart text).isEmpty then [] else trimStart text ++ blanks := by
  have nothing : blanks.dropWhile isBlank = [] := List.dropWhile_eq_nil_iff.2 blank
  rw [trimStart, List.dropWhile_append, nothing]
  rfl

theorem trim_append (text : List Char) {blanks : List Char}
    (blank : ∀ c ∈ blanks, isBlank c = true) : trim (text ++ blanks) = trim text := by
  rw [trim, trim, trimStart_append text blank]
  split
  · rename_i empty
    rw [List.isEmpty_iff.1 empty]
  · exact trimEnd_append_of_blank _ blank

theorem trim_blanks_append {blanks : List Char} (blank : ∀ c ∈ blanks, isBlank c = true)
    (text : List Char) : trim (blanks ++ text) = trim text := by
  induction blanks with
  | nil => rfl
  | cons c blanks induction =>
      rw [List.forall_mem_cons] at blank
      rw [List.cons_append, trim_cons_of_blank blank.1, induction blank.2]

theorem exists_trimEnd (text : List Char) :
    ∃ blanks, (∀ c ∈ blanks, isBlank c = true) ∧ text = trimEnd text ++ blanks := by
  refine ⟨(text.reverse.takeWhile isBlank).reverse, fun c member => ?_, ?_⟩
  · exact List.mem_takeWhile_imp (List.mem_reverse.1 member)
  · rw [trimEnd, ← List.reverse_append, List.takeWhile_append_dropWhile, List.reverse_reverse]

theorem trim_trimEnd (text : List Char) : trim (trimEnd text) = trim text := by
  obtain ⟨blanks, blank, cut⟩ := exists_trimEnd text
  rw [show trim text = trim (trimEnd text ++ blanks) by rw [← cut], trim_append _ blank]

theorem trim_trimStart (text : List Char) : trim (trimStart text) = trim text := by
  rw [trim, trim, trimStart, trimStart, List.dropWhile_idempotent]

theorem trimEnd_append_of_endsSolid {front : List Char} (ends : EndsSolid front)
    (text : List Char) : trimEnd (front ++ text) = front ++ trimEnd text := by
  have kept := trimEnd_of_endsSolid ends
  rw [trimEnd] at kept
  rw [trimEnd, trimEnd, List.reverse_append, List.dropWhile_append]
  split
  · rename_i empty
    rw [kept, List.isEmpty_iff.1 empty, List.reverse_nil, List.append_nil]
  · rw [List.reverse_append, List.reverse_reverse]

theorem trimStart_trimEnd (text : List Char) : trimStart (trimEnd text) = trim text := by
  rw [← trim_trimEnd]
  rcases trimEnd_eq_nil_or_endsSolid text with empty | ⟨front, last, cut, solid⟩
  · rw [empty]
    rfl
  · have alone : trimStart [last] = [last] := trimStart_of_solid solid []
    have ends : EndsSolid (trimStart (front ++ [last])) := by
      rw [trimStart, List.dropWhile_append, ← trimStart, ← trimStart, alone]
      split
      · exact ⟨[], last, rfl, solid⟩
      · exact ⟨trimStart front, last, rfl, solid⟩
    rw [cut, trim, trimEnd_of_endsSolid ends]

theorem trim_of_solid {text : List Char} (solid : ∀ c ∈ text, isBlank c = false) :
    trim text = text := by
  rcases List.eq_nil_or_concat text with rfl | ⟨front, last, rfl⟩
  · rfl
  · rw [List.concat_eq_append] at solid ⊢
    have ends : EndsSolid (front ++ [last]) := ⟨front, last, rfl, solid last (by simp)⟩
    cases front with
    | nil => exact trim_eq_self (solid last (by simp)) ends
    | cons c front => exact trim_eq_self (solid c (by simp)) ends

/-! ## Cutting -/

theorem afterStart?_eq_some_iff {start text rest : List Char} :
    afterStart? start text = some rest ↔ text = start ++ rest := by
  fun_induction afterStart? start text with
  | case1 text => simp [eq_comm]
  | case2 => simp
  | case3 start c text induction => simpa using induction
  | case4 s start c text different => simp [Ne.symm different]

theorem beforeEnd?_eq_some_iff {ending text front : List Char} :
    beforeEnd? ending text = some front ↔ text = front ++ ending := by
  rw [beforeEnd?, Option.map_eq_some_iff]
  constructor
  · rintro ⟨reversed, found, rfl⟩
    rw [← List.reverse_inj, afterStart?_eq_some_iff.1 found]
    simp
  · rintro rfl
    exact ⟨front.reverse, afterStart?_eq_some_iff.2 (by simp), by simp⟩

theorem eq_of_cutAt {mark : Char} {text left right : List Char}
    (found : cutAt mark text = some (left, right)) : text = left ++ mark :: right := by
  induction text generalizing left right with
  | nil => cases found
  | cons c text induction =>
      rw [cutAt] at found
      split at found
      · simp_all
      · obtain ⟨⟨inner, after⟩, deeper, equality⟩ := Option.map_eq_some_iff.1 found
        obtain ⟨rfl, rfl⟩ := Prod.mk.inj equality
        rw [induction deeper, List.cons_append]

/-- The text is cut at the first mark. -/
theorem not_mem_of_cutAt {mark : Char} {text left right : List Char}
    (found : cutAt mark text = some (left, right)) : mark ∉ left := by
  induction text generalizing left right with
  | nil => cases found
  | cons c text induction =>
      rw [cutAt] at found
      split at found
      · simp_all
      · rename_i different
        obtain ⟨⟨inner, after⟩, deeper, equality⟩ := Option.map_eq_some_iff.1 found
        obtain ⟨rfl, rfl⟩ := Prod.mk.inj equality
        simp [induction deeper, Ne.symm different]

theorem cutAt_append {mark : Char} {left : List Char} (free : mark ∉ left) (right : List Char) :
    cutAt mark (left ++ mark :: right) = some (left, right) := by
  induction left with
  | nil => simp [cutAt]
  | cons c left induction =>
      rw [List.mem_cons, not_or] at free
      simp [cutAt, Ne.symm free.1, induction free.2]

theorem cutAt_eq_none {mark : Char} {text : List Char} (free : mark ∉ text) :
    cutAt mark text = none := by
  cases found : cutAt mark text with
  | none => rfl
  | some parts =>
      have cut := eq_of_cutAt found
      exact absurd (by simp [cut]) free

variable {cut : Char → Bool}

theorem piecesBy_ne_nil (text : List Char) : piecesBy cut text ≠ [] := by
  cases text with
  | nil => simp [piecesBy]
  | cons c text =>
      rw [piecesBy]
      split
      · simp
      · split <;> simp

theorem piecesBy_cons {c : Char} (kept : cut c = false) {text piece : List Char}
    {pieces : List (List Char)} (rest : piecesBy cut text = piece :: pieces) :
    piecesBy cut (c :: text) = (c :: piece) :: pieces := by
  simp [piecesBy, kept, rest]

theorem piecesBy_of_free {text : List Char} (free : ∀ c ∈ text, cut c = false) :
    piecesBy cut text = [text] := by
  induction text with
  | nil => rfl
  | cons c text induction =>
      exact piecesBy_cons (free c List.mem_cons_self)
        (induction fun d member => free d (List.mem_cons_of_mem c member))

theorem piecesBy_append {left : List Char} (free : ∀ c ∈ left, cut c = false) {mark : Char}
    (cuts : cut mark = true) (right : List Char) :
    piecesBy cut (left ++ mark :: right) = left :: piecesBy cut right := by
  induction left with
  | nil => simp [piecesBy, cuts]
  | cons c left induction =>
      exact piecesBy_cons (free c List.mem_cons_self)
        (induction fun d member => free d (List.mem_cons_of_mem c member))

/-- Blanks in front of a text are trimmed from its first piece. -/
theorem map_trim_piecesBy_append {blanks : List Char} (blank : ∀ c ∈ blanks, isBlank c = true)
    (kept : ∀ c ∈ blanks, cut c = false) (text : List Char) :
    (piecesBy cut (blanks ++ text)).map trim = (piecesBy cut text).map trim := by
  induction blanks with
  | nil => rfl
  | cons c blanks induction =>
      have later := induction (fun d member => blank d (List.mem_cons_of_mem c member))
        fun d member => kept d (List.mem_cons_of_mem c member)
      cases pieces : piecesBy cut (blanks ++ text) with
      | nil => exact absurd pieces (piecesBy_ne_nil _)
      | cons piece pieces' =>
          rw [List.cons_append, piecesBy_cons (kept c List.mem_cons_self) pieces, ← later, pieces,
            List.map_cons, List.map_cons, trim_cons_of_blank (blank c List.mem_cons_self)]

end DocApi
