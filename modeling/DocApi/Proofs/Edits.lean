import DocApi.Proofs.Keyed

/-!
# Runs of edits

Every operation on an ordered map looks at one key. When the key is there, its value is changed in
place; when it is new, an entry may be appended. A run of such edits treats each key by itself, so
that running it a second time changes nothing as soon as it changes no single value.
-/

namespace DocApi
namespace Keyed

variable {α : Type}

/-! ## Registers -/

/-- A register is overwritten by every step that has a value for it. -/
def overwrite {ι : Type} (value? : ι → Option α) (held : α) (step : ι) : α :=
  (value? step).getD held

/-- Only the last value that is written to a register counts, so that writing all values again ends
with the same one. -/
theorem foldl_overwrite_twice {ι : Type} (value? : ι → Option α) (steps : List ι) (held : α) :
    steps.foldl (overwrite value?) (steps.foldl (overwrite value?) held) =
      steps.foldl (overwrite value?) held := by
  induction steps using List.reverseRecOn with
  | nil => rfl
  | append_singleton steps step induction =>
      rw [List.foldl_concat, List.foldl_concat]
      cases written : value? step with
      | none => simpa [overwrite, written] using induction
      | some value => simp [overwrite, written]

/-! ## Edits -/

/-- One edit of an ordered map. -/
structure Edit (α : Type) where
  /-- The key that the edit is about. -/
  key : String
  /-- What is appended under the key when it is new. -/
  initial : Option α
  /-- What becomes of the value of the key when it is there. -/
  change : α → α

namespace Edit

/-- Carries out an edit. -/
def apply : (entries : Keyed α) → (edit : Edit α) → Keyed α
  | [], edit => (edit.initial.map fun value => (edit.key, value)).toList
  | (key, value) :: entries, edit =>
      if key = edit.key then (key, edit.change value) :: entries
      else (key, value) :: apply entries edit

/-- Files a value, whether the key is there or not. -/
def filing (key : String) (value : α) : Edit α := ⟨key, some value, fun _ => value⟩

/-- Changes the value of a key that is there. -/
def adjusting (key : String) (change : α → α) : Edit α := ⟨key, none, change⟩

theorem apply_filing (entries : Keyed α) (key : String) (value : α) :
    apply entries (filing key value) = put entries key value := by
  induction entries with
  | nil => rfl
  | cons entry entries induction =>
      rw [put, ← induction]
      rfl

theorem apply_adjusting (entries : Keyed α) (key : String) (change : α → α) :
    apply entries (adjusting key change) = adjust entries key change := by
  induction entries with
  | nil => rfl
  | cons entry entries induction =>
      rw [adjust, ← induction]
      rfl

/-- An edit appends nothing, or the value that it would give the key anyway. -/
def Overwrites (edit : Edit α) : Prop :=
  ∀ value, edit.initial = some value → ∀ old, edit.change old = value

theorem overwrites_filing (key : String) (value : α) : (filing key value).Overwrites := by
  intro filed initial old
  exact Option.some.inj initial

theorem overwrites_adjusting (key : String) (change : α → α) :
    (adjusting key change).Overwrites :=
  nofun

end Edit

/-! ## Runs -/

/-- Carries out edits one after the other. -/
def edited (entries : Keyed α) (edits : List (Edit α)) : Keyed α := edits.foldl Edit.apply entries

/-- What edits make of the value of a key. -/
def valueAfter (edits : List (Edit α)) (key : String) (value : α) : α :=
  edits.foldl (fun value edit => if edit.key = key then edit.change value else value) value

/-- The edits of the other keys. -/
def otherEdits (key : String) (edits : List (Edit α)) : List (Edit α) :=
  edits.filter fun edit => edit.key ≠ key

theorem valueAfter_otherEdits_self (edits : List (Edit α)) (key : String) (value : α) :
    valueAfter (otherEdits key edits) key value = value := by
  induction edits with
  | nil => rfl
  | cons edit edits induction =>
      by_cases same : edit.key = key
      · simpa [otherEdits, same] using induction
      · simpa [otherEdits, valueAfter, same] using induction

theorem valueAfter_otherEdits {key asked : String} (different : asked ≠ key)
    (edits : List (Edit α)) (value : α) :
    valueAfter (otherEdits key edits) asked value = valueAfter edits asked value := by
  induction edits generalizing value with
  | nil => rfl
  | cons edit edits induction =>
      by_cases same : edit.key = key
      · have elsewhere : edit.key ≠ asked := fun equality => different (equality.symm.trans same)
        simpa [otherEdits, valueAfter, same, different.symm] using induction value
      · have kept : otherEdits key (edit :: edits) = edit :: otherEdits key edits := by
          simp [otherEdits, same]
        rw [kept]
        exact induction _

/-- The first entry sees only the edits of its key, and the entries after it only the others. -/
theorem edited_cons (key : String) (value : α) (entries : Keyed α) (edits : List (Edit α)) :
    edited ((key, value) :: entries) edits =
      (key, valueAfter edits key value) :: edited entries (otherEdits key edits) := by
  induction edits generalizing value entries with
  | nil => rfl
  | cons edit edits induction =>
      by_cases same : key = edit.key
      · have step : edited ((key, value) :: entries) (edit :: edits) =
            edited ((key, edit.change value) :: entries) edits := by
          simp [edited, Edit.apply, same]
        rw [step, induction]
        simp [valueAfter, otherEdits, same]
      · have step : edited ((key, value) :: entries) (edit :: edits) =
            edited ((key, value) :: Edit.apply entries edit) edits := by
          simp [edited, Edit.apply, same]
        rw [step, induction]
        simp [valueAfter, otherEdits, edited, Ne.symm same]

/-- As long as nothing is appended, an empty map stays empty. -/
theorem edited_nil_append {before : List (Edit α)} (idle : ∀ edit ∈ before, edit.initial = none)
    (after : List (Edit α)) : edited [] (before ++ after) = edited [] after := by
  induction before with
  | nil => rfl
  | cons edit before induction =>
      have nothing : Edit.apply [] edit = [] := by
        simp [Edit.apply, idle edit List.mem_cons_self]
      have later := induction fun other member => idle other (List.mem_cons_of_mem edit member)
      rw [edited] at later ⊢
      rw [List.cons_append, List.foldl_cons, nothing, later]

/-- The first edit that appends something, if there is one. -/
theorem exists_first_initial (edits : List (Edit α)) :
    (∀ edit ∈ edits, edit.initial = none) ∨
      ∃ before edit after value, edits = before ++ edit :: after ∧
        (∀ earlier ∈ before, earlier.initial = none) ∧ edit.initial = some value := by
  induction edits with
  | nil => exact Or.inl nofun
  | cons edit edits induction =>
      cases initial : edit.initial with
      | some value => exact Or.inr ⟨[], edit, edits, value, rfl, nofun, initial⟩
      | none =>
          rcases induction with idle | ⟨before, found, after, value, rfl, idle, appends⟩
          · exact Or.inl (by simpa [initial] using idle)
          · exact Or.inr ⟨edit :: before, found, after, value, rfl, by simpa [initial] using idle,
              appends⟩

/-- The values that edits leave behind are left alone by the same edits. -/
def Settles (edits : List (Edit α)) : Prop :=
  ∀ key value, valueAfter edits key (valueAfter edits key value) = valueAfter edits key value

theorem Settles.otherEdits {edits : List (Edit α)} (settles : Settles edits) (key : String) :
    Settles (otherEdits key edits) := by
  intro asked value
  by_cases same : asked = key
  · subst same
    simp only [valueAfter_otherEdits_self]
  · simp only [valueAfter_otherEdits same]
    exact settles asked value

/-- The value of an appended key is the one that all edits would give it. -/
theorem valueAfter_of_overwrites {before after : List (Edit α)} {edit : Edit α} {value : α}
    (overwrites : edit.Overwrites) (initial : edit.initial = some value) (old : α) :
    valueAfter (before ++ edit :: after) edit.key old = valueAfter after edit.key value := by
  have written := overwrites value initial
  simp [valueAfter, written]

/-- Edits that start from the empty map change nothing the second time. -/
theorem edited_edited_nil (edits : List (Edit α)) (overwrites : ∀ edit ∈ edits, edit.Overwrites) :
    edited (edited [] edits) edits = edited [] edits := by
  rcases exists_first_initial edits with idle | ⟨before, edit, after, value, split, idle, initial⟩
  · have empty : edited [] edits = [] := by
      simpa [edited] using edited_nil_append idle []
    rw [empty, empty]
  · -- The first entry is the one that is appended first; the rest of the map is what the edits of
    -- the other keys leave behind, and these are fewer.
    have own : edit.Overwrites := overwrites edit (by simp [split])
    have remaining : otherEdits edit.key edits =
        otherEdits edit.key before ++ otherEdits edit.key after := by
      simp [split, otherEdits]
    have idleOthers : ∀ earlier ∈ otherEdits edit.key before, earlier.initial = none :=
      fun earlier member => idle earlier (List.mem_filter.1 member).1
    have appended : Edit.apply [] edit = [(edit.key, value)] := by simp [Edit.apply, initial]
    have first : edited [] edits =
        (edit.key, valueAfter after edit.key value) :: edited [] (otherEdits edit.key edits) := by
      rw [remaining, edited_nil_append idleOthers, ← edited_cons, split, edited_nil_append idle,
        edited, List.foldl_cons, appended, edited]
    have fewer : (otherEdits edit.key edits).length < edits.length := by
      refine List.length_filter_lt_length_iff_exists.2 ⟨edit, by simp [split], by simp⟩
    have rest := edited_edited_nil (otherEdits edit.key edits)
      fun other member => overwrites other (List.mem_filter.1 member).1
    have whole : ∀ old, valueAfter edits edit.key old = valueAfter after edit.key value := by
      intro old
      rw [split]
      exact valueAfter_of_overwrites own initial old
    rw [first, edited_cons, rest, whole]
termination_by edits.length

/-- Edits that settle every value change nothing the second time. -/
theorem edited_edited {edits : List (Edit α)} (overwrites : ∀ edit ∈ edits, edit.Overwrites)
    (settles : Settles edits) (entries : Keyed α) :
    edited (edited entries edits) edits = edited entries edits := by
  induction entries generalizing edits with
  | nil => exact edited_edited_nil edits overwrites
  | cons entry entries induction =>
      rcases entry with ⟨key, value⟩
      have others : ∀ edit ∈ otherEdits key edits, edit.Overwrites :=
        fun other member => overwrites other (List.mem_filter.1 member).1
      have rest := induction others (settles.otherEdits key)
      rw [edited_cons, edited_cons, settles, rest]

/-! ## Filing again -/

theorem putAll_eq_edited (start entries : Keyed α) :
    putAll start entries = edited start (entries.map fun entry => Edit.filing entry.1 entry.2) := by
  rw [putAll, edited, List.foldl_map]
  simp only [Edit.apply_filing]

/-- Filing the same entries again changes nothing. -/
theorem putAll_putAll (start entries : Keyed α) :
    putAll (putAll start entries) entries = putAll start entries := by
  simp only [putAll_eq_edited]
  refine edited_edited ?_ ?_ start
  · intro edit member
    obtain ⟨entry, _, rfl⟩ := List.mem_map.1 member
    exact Edit.overwrites_filing _ _
  · intro key value
    have register : ∀ value, valueAfter (entries.map fun entry => Edit.filing entry.1 entry.2) key
        value =
        entries.foldl (overwrite fun entry => if entry.1 = key then some entry.2 else none)
          value := by
      intro value
      rw [valueAfter, List.foldl_map]
      congr 1
      funext held entry
      by_cases same : entry.1 = key <;> simp [Edit.filing, overwrite, same]
    simp only [register, foldl_overwrite_twice]

end Keyed
end DocApi
