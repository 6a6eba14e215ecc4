import DocApi.Json.Record
import DocApi.Proofs.Keyed

/-!
# Reading records back

A record is written field by field, and what a reader finds under a key is the value of the field
of that name. A writer is read back when the reader gives what was written, up to a change that the
format forces; lists and tables of values that are read back are read back as well.
-/

namespace DocApi.Json

variable {α : Type}

/-! ## What is written under a key -/

/-- The members of a record with the given fields. -/
def writtenMembers (fields : List (Option (String × Json))) : List (String × Json) :=
  fields.filterMap id

/-- What a record with the given fields has under a key. -/
def written (fields : List (Option (String × Json))) (key : String) : Option Json :=
  Keyed.at? (writtenMembers fields) key

@[simp] theorem record?_record (names : List String) (least : Nat)
    (fields : List (Option (String × Json))) :
    record? names least (record fields) = some (writtenMembers fields) := rfl

theorem record_ne_null (fields : List (Option (String × Json))) : record fields ≠ .null := nofun

@[simp] theorem written_nil (key : String) : written [] key = none := rfl

@[simp] theorem written_field? (name key : String) (value : Option Json)
    (fields : List (Option (String × Json))) :
    written (field? name value :: fields) key =
      if name = key then value.or (written fields key) else written fields key := by
  cases value with
  | none => simp [written, writtenMembers, field?]
  | some value =>
      by_cases same : name = key <;> simp [written, writtenMembers, field?, Keyed.at?, same]

@[simp] theorem field_eq (key : String) (value : Json) :
    field key value = field? key (some value) :=
  rfl

@[simp] theorem flag_eq (key : String) (value : Bool) :
    flag key value = field? key (if value then some (.bool true) else none) := by
  cases value <;> rfl

@[simp] theorem list_eq (key : String) (items : List Json) :
    list key items = field? key (if items = [] then none else some (.array items)) := by
  cases items <;> rfl

@[simp] theorem table_eq (key : String) (entries : List (String × Json)) :
    table key entries = field? key (if entries = [] then none else some (.object entries)) := by
  cases entries <;> rfl

/-! ## Reading a member -/

/-- The value of a member that may be missing or null. -/
def readOptional (read : Json → Option α) : Option Json → Option (Option α)
  | none => some none
  | some .null => some none
  | some value => (read value).map some

/-- The value of a member that stands for `fallback` when it is missing. -/
def readDefaulted (fallback : α) (read : Json → Option α) : Option Json → Option α
  | none => some fallback
  | some value => read value

@[simp] theorem required?_written (fields : List (Option (String × Json))) (key : String)
    (read : Json → Option α) :
    required? (writtenMembers fields) key read = (written fields key).bind read := rfl

theorem optional?_eq (members : List (String × Json)) (key : String) (read : Json → Option α) :
    optional? members key read = readOptional read (Keyed.at? members key) := by
  unfold optional? memberOf? readOptional
  split <;> simp_all

@[simp] theorem optional?_written (fields : List (Option (String × Json))) (key : String)
    (read : Json → Option α) :
    optional? (writtenMembers fields) key read = readOptional read (written fields key) :=
  optional?_eq _ key read

@[simp] theorem defaulted?_written (fields : List (Option (String × Json))) (key : String)
    (fallback : α) (read : Json → Option α) :
    defaulted? (writtenMembers fields) key fallback read =
      readDefaulted fallback read (written fields key) := by
  unfold defaulted? readDefaulted written
  split <;> simp_all

/-! ## Writers that are read back -/

/-- Whatever `write` writes, `read` reads it as the value after the change `settle`; nothing is
written as null. -/
structure ReadsBack (read : Json → Option α) (write : α → Json) (settle : α → α) : Prop where
  back : ∀ value, read (write value) = some (settle value)
  solid : ∀ value, write value ≠ .null

theorem readsBack_string : ReadsBack string? .string id := ⟨fun _ => rfl, nofun⟩

theorem readsBack_array : ReadsBack items? .array id := ⟨fun _ => rfl, nofun⟩

theorem readOptional_some {read : Json → Option α} {value : Json} (solid : value ≠ .null) :
    readOptional read (some value) = (read value).map some := by
  cases value with
  | null => exact absurd rfl solid
  | _ => rfl

namespace ReadsBack

variable {read : Json → Option α} {write : α → Json} {settle : α → α}

/-- A member that may be missing is read back. -/
theorem optional (reads : ReadsBack read write settle) (value : Option α) :
    readOptional read (value.map write) = some (value.map settle) := by
  cases value with
  | none => rfl
  | some value =>
      rw [Option.map_some, readOptional_some (reads.solid value), reads.back]
      rfl

theorem mapM (reads : ReadsBack read write settle) (items : List α) :
    (items.map write).mapM read = some (items.map settle) := by
  induction items with
  | nil => rfl
  | cons item items induction => simp [reads.back, induction]

/-- A list is read back item by item. -/
theorem list (reads : ReadsBack read write settle) :
    ReadsBack (listOf? read) (fun items => .array (items.map write)) (List.map settle) :=
  ⟨reads.mapM, nofun⟩

/-- A table is read back entry by entry, in the same order. -/
theorem table (reads : ReadsBack read write settle) :
    ReadsBack (tableOf? read) (fun entries => .object (Keyed.mapValues write entries))
      (Keyed.mapValues settle) := by
  refine ⟨fun entries => ?_, nofun⟩
  simp only [tableOf?]
  induction entries with
  | nil => rfl
  | cons entry entries induction => simp_all [Keyed.mapValues, reads.back]

/-- A list that is left out when it is empty is read back. -/
theorem defaultedList (reads : ReadsBack read write settle) (items : List α) :
    readDefaulted [] (listOf? read) (if items = [] then none else some (.array (items.map write))) =
      some (items.map settle) := by
  by_cases empty : items = []
  · subst empty
    rfl
  · rw [if_neg empty]
    exact reads.list.back items

/-- A table that is left out when it is empty is read back. -/
theorem defaultedTable (reads : ReadsBack read write settle) (entries : Keyed α) :
    readDefaulted [] (tableOf? read)
        (if entries = [] then none else some (.object (Keyed.mapValues write entries))) =
      some (Keyed.mapValues settle entries) := by
  by_cases empty : entries = []
  · subst empty
    rfl
  · rw [if_neg empty]
    exact reads.table.back entries

end ReadsBack

/-- A switch that is left out when it is off is read back. -/
@[simp] theorem readDefaulted_flag (value : Bool) :
    readDefaulted false bool? (if value then some (.bool true) else none) = some value := by
  cases value <;> rfl

end DocApi.Json
