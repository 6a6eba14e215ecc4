import DocApi.Keyed
import Mathlib.Data.List.Basic
import Mathlib.Data.List.Induction

/-!
# Keys and look-ups

What every operation on an ordered map does to its keys and to the value of each key. Of a list of
entries in which keys recur, `firstEntries` keeps the first of each key; filing the entries one by
one where the key is still free gives exactly these. Filing them one by one whether the key is free
or not keeps the order of the keys and the last value of each.
-/

namespace DocApi
namespace Keyed

variable {α β : Type}

/-! ## Keys -/

@[simp] theorem keys_nil : keys ([] : Keyed α) = [] := rfl

@[simp] theorem keys_cons (entry : String × α) (entries : Keyed α) :
    keys (entry :: entries) = entry.1 :: keys entries := rfl

@[simp] theorem keys_append (left right : Keyed α) :
    keys (left ++ right) = keys left ++ keys right := by
  simp [keys]

@[simp] theorem keys_mapValues (f : α → β) (entries : Keyed α) :
    keys (mapValues f entries) = keys entries := by
  simp [keys, mapValues]

@[simp] theorem mapValues_eq_nil_iff (f : α → β) (entries : Keyed α) :
    mapValues f entries = [] ↔ entries = [] := by
  simp [mapValues]

@[simp] theorem mapValues_id (entries : Keyed α) : mapValues id entries = entries := by
  simp [mapValues]

/-- A change of all values changes nothing when it leaves every value as it is. -/
theorem mapValues_eq_self_iff (f : α → α) (entries : Keyed α) :
    mapValues f entries = entries ↔ ∀ entry ∈ entries, f entry.2 = entry.2 := by
  induction entries with
  | nil => simp [mapValues]
  | cons entry entries induction =>
      rcases entry with ⟨key, value⟩
      simp_all [mapValues]

theorem mem_keys_of_mem {entries : Keyed α} {entry : String × α} (member : entry ∈ entries) :
    entry.1 ∈ keys entries :=
  List.mem_map_of_mem member

@[simp] theorem holds_eq_true_iff (entries : Keyed α) (key : String) :
    holds entries key = true ↔ key ∈ keys entries := by
  simp [holds, keys]

@[simp] theorem holds_eq_false_iff (entries : Keyed α) (key : String) :
    holds entries key = false ↔ key ∉ keys entries := by
  rw [← holds_eq_true_iff, Bool.not_eq_true]

/-- Writing keeps the keys in place and appends a new one. -/
theorem keys_put (entries : Keyed α) (key : String) (value : α) :
    keys (put entries key value) =
      if key ∈ keys entries then keys entries else keys entries ++ [key] := by
  induction entries with
  | nil => rfl
  | cons entry entries induction =>
      rcases entry with ⟨head, old⟩
      by_cases same : head = key
      · simp [put, same]
      · have different : key ≠ head := fun equality => same equality.symm
        by_cases member : key ∈ keys entries <;>
          simp [put, same, different, member, induction]

theorem mem_keys_put (entries : Keyed α) (set key : String) (value : α) :
    key ∈ keys (put entries set value) ↔ key ∈ keys entries ∨ key = set := by
  rw [keys_put]
  split
  · rename_i known
    exact ⟨Or.inl, fun either => either.elim id (fun same => same ▸ known)⟩
  · simp

/-- Writing never doubles a key. -/
theorem nodup_keys_put {entries : Keyed α} (key : String) (value : α)
    (distinct : (keys entries).Nodup) : (keys (put entries key value)).Nodup := by
  rw [keys_put]
  by_cases member : key ∈ keys entries
  · rwa [if_pos member]
  · rw [if_neg member]
    refine List.nodup_append.2 ⟨distinct, by simp, ?_⟩
    rintro old oldMember new newMember rfl
    exact member (List.mem_singleton.1 newMember ▸ oldMember)

/-- Writing to a new key appends its entry. -/
theorem put_of_not_mem {entries : Keyed α} {key : String} (value : α)
    (fresh : key ∉ keys entries) : put entries key value = entries ++ [(key, value)] := by
  induction entries with
  | nil => rfl
  | cons entry entries induction =>
      rcases entry with ⟨head, old⟩
      rw [keys_cons, List.mem_cons, not_or] at fresh
      have different : head ≠ key := fun equality => fresh.1 equality.symm
      simp [put, different, induction fresh.2]

theorem mem_put {entries : Keyed α} {key : String} {value : α} {entry : String × α}
    (member : entry ∈ put entries key value) : entry ∈ entries ∨ entry = (key, value) := by
  induction entries with
  | nil => exact Or.inr (by simpa [put] using member)
  | cons head entries induction =>
      rcases head with ⟨headKey, old⟩
      by_cases same : headKey = key
      · rw [put, if_pos same, List.mem_cons] at member
        rcases member with rfl | member
        · exact Or.inr (by rw [same])
        · exact Or.inl (List.mem_cons_of_mem _ member)
      · rw [put, if_neg same, List.mem_cons] at member
        rcases member with rfl | member
        · exact Or.inl List.mem_cons_self
        · exact (induction member).imp_left (List.mem_cons_of_mem _)

/-- Changing a value leaves every other entry as it was. -/
theorem mem_adjust {entries : Keyed α} {key : String} {change : α → α} {entry : String × α}
    (member : entry ∈ adjust entries key change) :
    entry ∈ entries ∨ ∃ old, (key, old) ∈ entries ∧ entry = (key, change old) := by
  induction entries with
  | nil => simp [adjust] at member
  | cons head entries induction =>
      rcases head with ⟨headKey, value⟩
      by_cases same : headKey = key
      · subst same
        rw [adjust, if_pos rfl, List.mem_cons] at member
        rcases member with rfl | member
        · exact Or.inr ⟨value, List.mem_cons_self, rfl⟩
        · exact Or.inl (List.mem_cons_of_mem _ member)
      · rw [adjust, if_neg same, List.mem_cons] at member
        rcases member with rfl | member
        · exact Or.inl List.mem_cons_self
        · rcases induction member with kept | ⟨old, found, changed⟩
          · exact Or.inl (List.mem_cons_of_mem _ kept)
          · exact Or.inr ⟨old, List.mem_cons_of_mem _ found, changed⟩

@[simp] theorem keys_adjust (entries : Keyed α) (key : String) (change : α → α) :
    keys (adjust entries key change) = keys entries := by
  induction entries with
  | nil => rfl
  | cons entry entries induction =>
      rcases entry with ⟨head, value⟩
      by_cases same : head = key <;> simp [adjust, same, induction]

/-! ## Look-ups -/

/-- An entry is found by its key when no key occurs twice. -/
theorem at?_eq_some_of_mem {entries : Keyed α} (distinct : (keys entries).Nodup) {key : String}
    {value : α} (member : (key, value) ∈ entries) : at? entries key = some value := by
  induction entries with
  | nil => cases member
  | cons entry entries induction =>
      rcases entry with ⟨head, first⟩
      rw [keys_cons, List.nodup_cons] at distinct
      rcases List.mem_cons.1 member with equality | later
      · obtain ⟨rfl, rfl⟩ := Prod.mk.inj equality
        simp [at?]
      · have different : head ≠ key := by
          rintro rfl
          have repeated := mem_keys_of_mem later
          exact distinct.1 repeated
        rw [at?, if_neg different]
        exact induction distinct.2 later

theorem at?_append (left right : Keyed α) (key : String) :
    at? (left ++ right) key = (at? left key).or (at? right key) := by
  induction left with
  | nil => rfl
  | cons entry left induction =>
      rcases entry with ⟨head, value⟩
      by_cases same : head = key <;> simp [at?, same, induction]

theorem at?_mapValues (f : α → β) (entries : Keyed α) (key : String) :
    at? (mapValues f entries) key = (at? entries key).map f := by
  induction entries with
  | nil => rfl
  | cons entry entries induction =>
      rcases entry with ⟨head, value⟩
      have tail : at? (List.map (fun entry => (entry.1, f entry.2)) entries) key =
          (at? entries key).map f := induction
      by_cases same : head = key <;> simp [mapValues, at?, same, tail]

/-- Writing changes the value of one key only. -/
theorem at?_put (entries : Keyed α) (set asked : String) (value : α) :
    at? (put entries set value) asked = if asked = set then some value else at? entries asked := by
  induction entries with
  | nil => by_cases same : set = asked <;> simp [put, at?, same, eq_comm]
  | cons entry entries induction =>
      rcases entry with ⟨head, old⟩
      by_cases written : head = set
      · subst written
        by_cases same : head = asked
        · simp [put, at?, same]
        · have different : asked ≠ head := fun equality => same equality.symm
          simp [put, at?, same, different]
      · by_cases same : head = asked
        · subst same
          simp [put, at?, written]
        · simp [put, at?, written, same, induction]

/-- A change concerns one key only. -/
theorem at?_adjust (entries : Keyed α) (set asked : String) (change : α → α) :
    at? (adjust entries set change) asked =
      if asked = set then (at? entries asked).map change else at? entries asked := by
  induction entries with
  | nil => simp [adjust, at?]
  | cons entry entries induction =>
      rcases entry with ⟨head, value⟩
      by_cases changed : head = set
      · subst changed
        by_cases same : head = asked
        · simp [adjust, at?, same]
        · have different : asked ≠ head := fun equality => same equality.symm
          simp [adjust, at?, same, different]
      · by_cases same : head = asked
        · subst same
          simp [adjust, at?, changed]
        · simp [adjust, at?, changed, same, induction]

/-- A change that leaves the value of its key as it is changes nothing. -/
theorem adjust_eq_self {entries : Keyed α} {key : String} {change : α → α}
    (kept : ∀ value, at? entries key = some value → change value = value) :
    adjust entries key change = entries := by
  induction entries with
  | nil => rfl
  | cons entry entries induction =>
      rcases entry with ⟨head, value⟩
      by_cases same : head = key
      · have unchanged : change value = value := kept value (by simp [at?, same])
        simp [adjust, same, unchanged]
      · have later : adjust entries key change = entries :=
          induction fun value found => kept value (by simpa [at?, same] using found)
        simp [adjust, same, later]

theorem at?_eq_none_iff (entries : Keyed α) (key : String) :
    at? entries key = none ↔ key ∉ keys entries := by
  induction entries with
  | nil => simp [at?]
  | cons entry entries induction =>
      rcases entry with ⟨head, value⟩
      by_cases same : head = key
      · simp [at?, same]
      · simp [at?, same, Ne.symm same, induction]

theorem at?_eq_some_iff {entries : Keyed α} (distinct : (keys entries).Nodup) (key : String)
    (value : α) : at? entries key = some value ↔ (key, value) ∈ entries :=
  ⟨mem_of_at?, at?_eq_some_of_mem distinct⟩

/-- The order of the entries does not matter to what is filed under a key. -/
theorem at?_of_perm {entries shuffled : Keyed α} (distinct : (keys entries).Nodup)
    (perm : entries.Perm shuffled) (key : String) : at? entries key = at? shuffled key := by
  refine Option.ext fun value => ?_
  rw [at?_eq_some_iff distinct, at?_eq_some_iff ((perm.map Prod.fst).nodup distinct),
    perm.mem_iff]

/-- Maps with the same keys in the same order, none repeated, are equal when they have the same
values. -/
theorem eq_of_at? {first second : Keyed α} (sameKeys : keys first = keys second)
    (distinct : (keys first).Nodup) (same : ∀ key, at? first key = at? second key) :
    first = second := by
  induction first generalizing second with
  | nil => exact (List.map_eq_nil_iff.1 sameKeys.symm).symm
  | cons entry first induction =>
      rcases entry with ⟨key, value⟩
      cases second with
      | nil => cases sameKeys
      | cons other second =>
          rcases other with ⟨otherKey, otherValue⟩
          rw [keys_cons, keys_cons, List.cons.injEq] at sameKeys
          obtain ⟨rfl, laterKeys⟩ : key = otherKey ∧ keys first = keys second := sameKeys
          rw [keys_cons, List.nodup_cons] at distinct
          have head : value = otherValue := by simpa [at?] using same key
          have later : ∀ asked, at? first asked = at? second asked := by
            intro asked
            by_cases here : key = asked
            · subst here
              have absent := (at?_eq_none_iff first key).2 distinct.1
              have absent' := (at?_eq_none_iff second key).2 (laterKeys ▸ distinct.1)
              rw [absent, absent']
            · simpa [at?, here] using same asked
          rw [head, induction laterKeys distinct.2 later]

/-! ## Filing in order -/

/-- Files the entries one by one; a later value of a key replaces the one before it. -/
def putAll (start entries : Keyed α) : Keyed α :=
  entries.foldl (fun filed entry => put filed entry.1 entry.2) start

theorem putAll_concat (start entries : Keyed α) (entry : String × α) :
    putAll start (entries ++ [entry]) = put (putAll start entries) entry.1 entry.2 := by
  simp [putAll]

/-- One more key counts only if it is new. -/
theorem eraseDups_concat (names : List String) (name : String) :
    (names ++ [name]).eraseDups =
      if name ∈ names then names.eraseDups else names.eraseDups ++ [name] := by
  rw [List.eraseDups_append]
  by_cases member : name ∈ names <;> simp [member, List.removeAll, List.eraseDups_cons]

/-- Keys stand in the order of their first entries. -/
theorem keys_putAll (entries : Keyed α) : keys (putAll [] entries) = (keys entries).eraseDups := by
  induction entries using List.reverseRecOn with
  | nil => rfl
  | append_singleton entries entry induction =>
      rw [putAll_concat, keys_put, induction, keys_append, keys_cons, keys_nil, eraseDups_concat]
      simp

/-- The last entry of a key gives its value. -/
theorem at?_putAll (entries : Keyed α) (key : String) :
    at? (putAll [] entries) key =
      ((entries.filter fun entry => entry.1 = key).getLast?).map Prod.snd := by
  induction entries using List.reverseRecOn with
  | nil => rfl
  | append_singleton entries entry induction =>
      rw [putAll_concat, at?_put, induction, List.filter_append]
      by_cases same : entry.1 = key
      · simp [same]
      · have different : key ≠ entry.1 := fun equality => same equality.symm
        simp [same, different]

/-! ## First entries -/

/-- The first entry of each key, in order. -/
def firstEntries : Keyed α → Keyed α
  | [] => []
  | entry :: entries => entry :: (firstEntries entries).filter fun later => later.1 != entry.1

theorem mem_keys_filter {entries : Keyed α} {p : String → Bool} {key : String} :
    key ∈ keys (entries.filter fun entry => p entry.1) ↔ key ∈ keys entries ∧ p key = true := by
  simp only [keys, List.mem_map, List.mem_filter]
  constructor
  · rintro ⟨entry, ⟨member, passes⟩, rfl⟩
    exact ⟨⟨entry, member, rfl⟩, passes⟩
  · rintro ⟨⟨entry, member, rfl⟩, passes⟩
    exact ⟨entry, ⟨member, passes⟩, rfl⟩

theorem nodup_keys_filter {entries : Keyed α} (p : String × α → Bool)
    (distinct : (keys entries).Nodup) : (keys (entries.filter p)).Nodup :=
  distinct.sublist (List.filter_sublist.map Prod.fst)

theorem at?_filter_of_pass {entries : Keyed α} (p : String → Bool) {key : String}
    (passes : p key = true) :
    at? (entries.filter fun entry => p entry.1) key = at? entries key := by
  induction entries with
  | nil => rfl
  | cons entry entries induction =>
      rcases entry with ⟨head, value⟩
      by_cases same : head = key
      · subst same
        simp [at?, passes]
      · by_cases kept : p head = true <;> simp [at?, same, kept, induction]

@[simp] theorem mem_keys_firstEntries (entries : Keyed α) (key : String) :
    key ∈ keys (firstEntries entries) ↔ key ∈ keys entries := by
  induction entries with
  | nil => rfl
  | cons entry entries induction =>
      rw [firstEntries, keys_cons, List.mem_cons,
        mem_keys_filter (p := fun later => later != entry.1), induction, keys_cons, List.mem_cons]
      by_cases same : key = entry.1 <;> simp [same]

/-- No key has two first entries. -/
theorem nodup_keys_firstEntries (entries : Keyed α) : (keys (firstEntries entries)).Nodup := by
  induction entries with
  | nil => exact List.nodup_nil
  | cons entry entries induction =>
      rw [firstEntries, keys_cons, List.nodup_cons]
      refine ⟨?_, nodup_keys_filter _ induction⟩
      rw [mem_keys_filter (p := fun later => later != entry.1)]
      simp

theorem firstEntries_eq_nil_iff (entries : Keyed α) : firstEntries entries = [] ↔ entries = [] := by
  cases entries <;> simp [firstEntries]

theorem mem_of_mem_firstEntries {entries : Keyed α} {entry : String × α}
    (member : entry ∈ firstEntries entries) : entry ∈ entries := by
  induction entries with
  | nil => exact member
  | cons head entries induction =>
      rw [firstEntries, List.mem_cons, List.mem_filter] at member
      rcases member with rfl | ⟨member, _⟩
      · exact List.mem_cons_self
      · exact List.mem_cons_of_mem _ (induction member)

/-- The first entry decides what a look-up gives. -/
theorem at?_firstEntries (entries : Keyed α) (key : String) :
    at? (firstEntries entries) key = at? entries key := by
  induction entries with
  | nil => rfl
  | cons entry entries induction =>
      rcases entry with ⟨head, value⟩
      by_cases same : head = key
      · simp [firstEntries, at?, same]
      · have passes : (key != head) = true := by simpa [bne_iff_ne] using Ne.symm same
        rw [firstEntries, at?, at?, if_neg same, if_neg same, ← induction]
        exact at?_filter_of_pass (fun later => later != head) passes

/-- Entries with distinct keys are all first entries. -/
theorem firstEntries_of_nodup {entries : Keyed α} (distinct : (keys entries).Nodup) :
    firstEntries entries = entries := by
  induction entries with
  | nil => rfl
  | cons entry entries induction =>
      rw [keys_cons, List.nodup_cons] at distinct
      rw [firstEntries, induction distinct.2, List.filter_eq_self.2]
      intro later member
      have different : later.1 ≠ entry.1 := fun equality =>
        distinct.1 (equality ▸ mem_keys_of_mem member)
      simpa using different

/-- Entries that come later count only for keys that are new. -/
theorem firstEntries_append (left right : Keyed α) :
    firstEntries (left ++ right) =
      firstEntries left ++ (firstEntries right).filter fun entry => !holds left entry.1 := by
  induction left with
  | nil => simp [firstEntries, holds]
  | cons entry left induction =>
      rw [List.cons_append, firstEntries, induction, List.filter_append, List.filter_filter,
        firstEntries, List.cons_append]
      congr 2
      refine List.filter_congr fun later _ => ?_
      rw [Bool.eq_iff_iff]
      simp

/-- Filing entries where the key is free keeps what is there and adds the first entry of every
other key. -/
theorem foldl_putNew (start entries : Keyed α) :
    entries.foldl (fun filed entry => putNew filed entry.1 entry.2) start =
      start ++ (firstEntries entries).filter fun entry => !holds start entry.1 := by
  induction entries generalizing start with
  | nil => simp [firstEntries]
  | cons entry entries induction =>
      rw [List.foldl_cons, induction, firstEntries]
      by_cases taken : holds start entry.1 = true
      · rw [putNew, if_pos taken, List.filter_cons_of_neg (by simp [taken]), List.filter_filter]
        congr 1
        refine List.filter_congr fun later _ => ?_
        -- What is not held differs from the key that is held.
        by_cases same : later.1 = entry.1 <;> simp [same, taken]
      · rw [putNew, if_neg taken, List.filter_cons_of_pos (by simp [taken]), List.filter_filter,
          List.append_assoc, List.singleton_append]
        congr 2
        refine List.filter_congr fun later _ => ?_
        rw [Bool.eq_iff_iff]
        simp [and_comm]

end Keyed
end DocApi
