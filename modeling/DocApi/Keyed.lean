/-!
# Maps that keep their order

A map with string keys lists its entries in the order in which the keys were first given. Writing
to a key that is there changes the value in place; writing to a new key appends it.
-/

namespace DocApi

/-- The entries of a map with string keys, in the order of their first writing. -/
abbrev Keyed (α : Type) := List (String × α)

namespace Keyed

variable {α β : Type}

/-- The keys, in order. -/
def keys (entries : Keyed α) : List String := entries.map Prod.fst

/-- Whether `key` is there. -/
def holds (entries : Keyed α) (key : String) : Bool := entries.any fun entry => entry.1 == key

/-- The value filed under `key`. -/
def at? : (entries : Keyed α) → (key : String) → Option α
  | [], _ => none
  | (k, value) :: entries, key => if k = key then some value else at? entries key

/-- What is filed under a key is one of the entries. -/
theorem mem_of_at? {entries : Keyed α} {key : String} {value : α}
    (found : at? entries key = some value) : (key, value) ∈ entries := by
  fun_induction at? entries key with
  | case1 => simp at found
  | case2 => simp_all
  | case3 _ _ _ _ _ induction => exact List.mem_cons_of_mem _ (induction found)

/-- Files `value` under `key`: in place when the key is there, at the end otherwise. -/
def put : (entries : Keyed α) → (key : String) → (value : α) → Keyed α
  | [], key, value => [(key, value)]
  | (k, old) :: entries, key, value =>
      if k = key then (k, value) :: entries else (k, old) :: put entries key value

/-- Files `value` under `key` unless the key is there already. -/
def putNew (entries : Keyed α) (key : String) (value : α) : Keyed α :=
  if holds entries key then entries else entries ++ [(key, value)]

/-- Changes the value filed under `key`, when there is one. -/
def adjust : (entries : Keyed α) → (key : String) → (change : α → α) → Keyed α
  | [], _, _ => []
  | (k, value) :: entries, key, change =>
      if k = key then (k, change value) :: entries else (k, value) :: adjust entries key change

/-- Applies a function to every value. -/
def mapValues (f : α → β) (entries : Keyed α) : Keyed β :=
  entries.map fun entry => (entry.1, f entry.2)

end Keyed

end DocApi
