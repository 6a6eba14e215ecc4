import DocApi.Proofs.Source.Running
import Mathlib.Data.List.Basic

/-!
# Lists between commas

A rule for lists reads items up to the end of the trees, with a comma after each but the last. It
gives what the rule for items gives of each of them, and it fails where an item cannot be read or
goes on where a comma should stand.
-/

namespace DocApi.Source

/-! ## What rules read -/

namespace Rule

variable {α β : Type} {trees middle rest : List Tree}

/-- Whether a rule gives a value where `trees` are ahead and leaves `rest` of them, whatever items
it collects. -/
def Reads (rule : Rule α) (value : α) (trees rest : List Tree) : Prop :=
  ∀ cursor : Cursor, cursor.rest = trees →
    ∃ after : Cursor, after.rest = rest ∧ rule cursor = some (value, after)

/-- Whether a rule fails where `trees` are ahead. -/
def Fails (rule : Rule α) (trees : List Tree) : Prop :=
  ∀ cursor : Cursor, cursor.rest = trees → rule cursor = none

theorem Reads.bind {rule : Rule α} {value : α} (first : rule.Reads value trees middle)
    {next : α → Rule β} {result : β} (later : (next value).Reads result middle rest) :
    (rule >>= next).Reads result trees rest := by
  intro cursor here
  obtain ⟨between, there, ran⟩ := first cursor here
  rw [bind_apply ran]
  exact later between there

theorem Reads.bind_fails {rule : Rule α} {value : α} (first : rule.Reads value trees middle)
    {next : α → Rule β} (later : (next value).Fails middle) : (rule >>= next).Fails trees := by
  intro cursor here
  obtain ⟨between, there, ran⟩ := first cursor here
  rw [bind_apply ran]
  exact later between there

theorem Fails.bind {rule : Rule α} (fails : rule.Fails trees) (next : α → Rule β) :
    (rule >>= next).Fails trees := by
  intro cursor here
  change Rule.bind rule next cursor = none
  rw [Rule.bind, fails cursor here]

theorem reads_pure (value : α) (trees : List Tree) :
    (pure value : Rule α).Reads value trees trees := fun cursor here => ⟨cursor, here, rfl⟩

theorem reads_ahead (condition : List Tree → Bool) (trees : List Tree) :
    (ahead condition).Reads (condition trees) trees trees :=
  fun cursor here => ⟨cursor, here, by rw [ahead, here]⟩

theorem reads_punct {marks : String} (present : isPunct marks trees = true) :
    (punct marks).Reads () trees (trees.drop marks.length) := by
  rintro cursor rfl
  exact ⟨_, rfl, if_pos present⟩

theorem fails_punct {marks : String} (absent : isPunct marks trees = false) :
    (punct marks).Fails trees := by
  rintro cursor rfl
  rw [punct, absent]
  rfl

theorem reads_anyIdent (ident : Ident) (rest : List Tree) :
    anyIdent.Reads ident (.ident ident :: rest) rest := by
  intro cursor here
  exact ⟨{ cursor with rest }, rfl, by rw [anyIdent, here]⟩

theorem reads_text (value : String) (rest : List Tree) :
    text.Reads value (.literal (.text value) :: rest) rest := by
  have first : literal.Reads (.text value) (.literal (.text value) :: rest) rest :=
    fun cursor here => ⟨{ cursor with rest }, rfl, by rw [literal, here]⟩
  exact first.bind (reads_pure value rest)

/-- A text is only read from a literal that is one. -/
theorem fails_text (other : ∀ value rest, trees ≠ .literal (.text value) :: rest) :
    text.Fails trees := by
  rintro cursor rfl
  change Rule.bind literal _ cursor = none
  rw [Rule.bind]
  cases ran : literal cursor with
  | none => rfl
  | some read =>
      unfold literal at ran
      split at ran
      · rename_i value rest front
        cases ran
        cases value with
        | text value => exact absurd front (other value rest)
        | _ => rfl
      · split at ran <;> cases ran
        rfl
      · cases ran
        rfl
      · cases ran
        rfl
      · cases ran

theorem Reads.within {rule : Rule α} {value : α} {delimiter : Delimiter} {body left : List Tree}
    (reads : rule.Reads value body left) (rest : List Tree) :
    (within delimiter rule).Reads value (.group delimiter body :: rest) rest := by
  intro cursor here
  obtain ⟨inside, -, ran⟩ := reads { cursor with rest := body } rfl
  refine ⟨{ inside with rest, stray := inside.stray || !inside.rest.isEmpty }, rfl, ?_⟩
  rw [Rule.within, here]
  simp only [if_true, ran]

theorem Fails.within {rule : Rule α} {delimiter : Delimiter} {body : List Tree}
    (fails : rule.Fails body) (rest : List Tree) :
    (within delimiter rule).Fails (.group delimiter body :: rest) := by
  intro cursor here
  rw [Rule.within, here]
  simp only [if_true, fails { cursor with rest := body } rfl]

end Rule

/-! ## Lists between commas -/

/-- What may follow an entry: nothing, or a comma. -/
inductive EndsEntry : List Tree → Prop
  | nil : EndsEntry []
  | comma (joint : Bool) (rest : List Tree) : EndsEntry (.punct ',' joint :: rest)

theorem EndsEntry.startsPunct {rest : List Tree} (ends : EndsEntry rest) {mark : Char}
    (other : mark ≠ ',') (marks : List Char) : startsPunct (mark :: marks) rest = false := by
  cases ends with
  | nil => cases marks <;> rfl
  | comma joint rest => exact startsPunct_of_ne other marks joint rest

/-- What does not end an entry starts with something else than a comma. -/
theorem not_endsEntry {rest : List Tree} (goesOn : ¬ EndsEntry rest) :
    rest ≠ [] ∧ isPunct "," rest = false := by
  refine ⟨fun empty => goesOn (empty ▸ .nil), ?_⟩
  cases rest with
  | nil => rfl
  | cons tree rest =>
      cases tree with
      | punct mark joint =>
          have different : ',' ≠ mark := fun same => goesOn (same ▸ .comma joint rest)
          exact startsPunct_of_ne different [] joint rest
      | ident ident => rfl
      | literal literal => rfl
      | group delimiter body => rfl

variable {α β : Type}

/-- Items with a comma after each. -/
inductive Led (item : List Tree → α → Prop) : List Tree → List α → Prop
  | nil : Led item [] []
  | cons {trees more : List Tree} {value : α} {values : List α} (first : item trees value)
      (joint : Bool) (later : Led item more values) :
      Led item (trees ++ .punct ',' joint :: more) (value :: values)

/-- Items between commas; a comma may follow the last. -/
inductive Listed (item : List Tree → α → Prop) : List Tree → List α → Prop
  | closed {trees : List Tree} {values : List α} (led : Led item trees values) :
      Listed item trees values
  | opened {front trees : List Tree} {values : List α} {value : α} (led : Led item front values)
      (last : item trees value) : Listed item (front ++ trees) (values ++ [value])

section Lists

variable {item : List Tree → α → Prop} {other : List Tree → β → Prop} {trees front : List Tree}
  {values : List α}

theorem treesSize_append (first second : List Tree) :
    treesSize (first ++ second) = treesSize first + treesSize second := by
  induction first with
  | nil => simp [treesSize]
  | cons tree first induction =>
      rw [List.cons_append, treesSize, treesSize, induction, Nat.add_assoc]

/-- A list with another item in front. -/
theorem Listed.cons {value : α} (first : item front value) (joint : Bool)
    (listed : Listed item trees values) :
    Listed item (front ++ .punct ',' joint :: trees) (value :: values) := by
  cases listed with
  | closed led => exact .closed (.cons first joint led)
  | opened led last =>
      have longer := Listed.opened (.cons first joint led) last
      rwa [List.append_assoc, List.cons_append] at longer

/-- Items that are not too large are items of another kind. -/
theorem Led.map (led : Led item trees values) (change : α → β)
    (same : ∀ part value, treesSize part ≤ treesSize trees → item part value →
      other part (change value)) :
    Led other trees (values.map change) := by
  induction led with
  | nil => exact .nil
  | cons first joint later induction =>
      simp only [treesSize_append, treesSize] at same
      exact .cons (same _ _ (by omega) first) joint
        (induction fun part value small => same part value (by omega))

theorem Listed.map (listed : Listed item trees values) (change : α → β)
    (same : ∀ part value, treesSize part ≤ treesSize trees → item part value →
      other part (change value)) :
    Listed other trees (values.map change) := by
  cases listed with
  | closed led => exact .closed (led.map change same)
  | opened led last =>
      rw [treesSize_append] at same
      have mapped := Listed.opened
        (led.map change fun part value small => same part value (by omega))
        (same _ _ (by omega) last)
      rwa [List.map_append]

theorem Led.imp {other : List Tree → α → Prop} (led : Led item trees values)
    (same : ∀ part value, treesSize part ≤ treesSize trees → item part value → other part value) :
    Led other trees values := by
  simpa using led.map id same

theorem Listed.imp {other : List Tree → α → Prop} (listed : Listed item trees values)
    (same : ∀ part value, treesSize part ≤ treesSize trees → item part value → other part value) :
    Listed other trees values := by
  simpa using listed.map id same

end Lists

/-- Whether a rule reads trees as an item where a comma follows or nothing does. -/
structure ReadsItem (rule : Rule α) (trees : List Tree) (value : α) : Prop where
  nonempty : trees ≠ []
  reads : ∀ {rest : List Tree}, EndsEntry rest → rule.Reads value (trees ++ rest) rest

namespace Rule

variable {rule : Rule α} {trees front rest : List Tree} {values : List α}

/-- One step of reading a list. -/
def commaStep (rule : Rule α) (found : List α) : Rule (Step (List α) (List α)) := do
  if ← atEnd then return .done found.reverse
  let value ← rule
  if ← atEnd then return .done (value :: found).reverse
  punct ","
  return .again (value :: found)

theorem commaList_eq (rule : Rule α) : commaList rule = loop (commaStep rule) [] := rfl

section Step

variable (found : List α)

theorem commaStep_nil : (commaStep rule found).Reads (.done found.reverse) [] [] :=
  (reads_ahead List.isEmpty []).bind (reads_pure _ [])

/-- Where some trees are ahead, a step reads an item. -/
theorem Reads.commaStep {value : α} (nonempty : trees ≠ []) (reads : rule.Reads value trees rest)
    {result : Step (List α) (List α)} {left : List Tree}
    (later : (do
      if ← atEnd then return .done (value :: found).reverse
      punct ","
      return .again (value :: found) : Rule (Step (List α) (List α))).Reads result rest left) :
    (commaStep rule found).Reads result trees left := by
  refine (reads_ahead List.isEmpty trees).bind ?_
  rw [List.isEmpty_eq_false_iff.2 nonempty]
  exact reads.bind later

theorem commaStep_led {value : α} (reads : ReadsItem rule trees value) (joint : Bool)
    (more : List Tree) :
    (commaStep rule found).Reads (.again (value :: found)) (trees ++ .punct ',' joint :: more)
      more := by
  refine (reads.reads (.comma joint more)).commaStep found (by simp) ?_
  exact (reads_ahead List.isEmpty _).bind ((reads_punct rfl).bind (reads_pure _ more))

theorem commaStep_last {value : α} (reads : ReadsItem rule trees value) :
    (commaStep rule found).Reads (.done (value :: found).reverse) trees [] := by
  have alone := reads.reads .nil
  rw [List.append_nil] at alone
  exact alone.commaStep found reads.nonempty
    ((reads_ahead List.isEmpty []).bind (reads_pure _ []))

theorem Fails.commaStep (nonempty : trees ≠ []) (fails : rule.Fails trees) :
    (commaStep rule found).Fails trees := by
  refine (reads_ahead List.isEmpty trees).bind_fails ?_
  rw [List.isEmpty_eq_false_iff.2 nonempty]
  exact fails.bind _

/-- After an item a step fails where the item does not end. -/
theorem commaStep_fails {value : α} (nonempty : trees ≠ []) (reads : rule.Reads value trees rest)
    (goesOn : ¬ EndsEntry rest) : (commaStep rule found).Fails trees := by
  obtain ⟨more, noComma⟩ := not_endsEntry goesOn
  refine (reads_ahead List.isEmpty trees).bind_fails ?_
  rw [List.isEmpty_eq_false_iff.2 nonempty]
  refine reads.bind_fails ((reads_ahead List.isEmpty rest).bind_fails ?_)
  rw [List.isEmpty_eq_false_iff.2 more]
  exact (fails_punct noComma).bind _

end Step

/-- Reading a list goes on behind items that are followed by commas. -/
theorem exists_repeatStep_of_led (led : Led (ReadsItem rule) front values) (found : List α)
    {cursor : Cursor} (here : cursor.rest = front ++ rest) {count : Nat}
    (enough : cursor.rest.length < count) :
    ∃ more middle, middle.rest = rest ∧ rest.length < more ∧
      repeatStep (commaStep rule) count found cursor =
        repeatStep (commaStep rule) more (values.reverse ++ found) middle := by
  induction led generalizing found cursor count with
  | nil =>
      rw [List.nil_append] at here
      exact ⟨count, cursor, here, here ▸ enough, rfl⟩
  | @cons trees more value values first joint later induction =>
      rw [List.append_assoc, List.cons_append] at here
      obtain ⟨after, there, ran⟩ := commaStep_led found first joint (more ++ rest) cursor here
      obtain ⟨count, rfl⟩ := Nat.exists_eq_succ_of_ne_zero (Nat.ne_zero_of_lt enough)
      have shorter : after.rest.length < count := by
        rw [here, List.length_append, List.length_cons] at enough
        rw [there]
        omega
      obtain ⟨left, middle, ahead, still, goesOn⟩ := induction (value :: found) there shorter
      refine ⟨left, middle, ahead, still, ?_⟩
      simp only [repeatStep, ran]
      simpa using goesOn

/-- A list ends where a step behind items ends it. -/
theorem reads_commaList_of_led (led : Led (ReadsItem rule) front values) {result : List α}
    (ends : (commaStep rule values.reverse).Reads (.done result) rest []) :
    (commaList rule).Reads result (front ++ rest) [] := by
  intro cursor here
  obtain ⟨more, middle, there, enough, goesOn⟩ :=
    exists_repeatStep_of_led led [] here (Nat.lt_add_of_pos_right Nat.two_pos)
  obtain ⟨after, left, ran⟩ := ends middle there
  obtain ⟨more, rfl⟩ := Nat.exists_eq_succ_of_ne_zero (Nat.ne_zero_of_lt enough)
  refine ⟨after, left, ?_⟩
  rw [commaList_eq, loop, goesOn, List.append_nil]
  simp only [repeatStep, ran]

/-- A list is read item by item. -/
theorem reads_commaList (listed : Listed (ReadsItem rule) trees values) :
    (commaList rule).Reads values trees [] := by
  cases listed with
  | closed led =>
      have ends : (commaStep rule values.reverse).Reads (.done values) [] [] := by
        simpa using commaStep_nil values.reverse
      simpa using reads_commaList_of_led led ends
  | @opened _ _ before _ led last =>
      have ends := commaStep_last before.reverse last
      rw [List.reverse_cons, List.reverse_reverse] at ends
      exact reads_commaList_of_led led ends

/-- A list fails where a step behind items fails. -/
theorem fails_commaList (led : Led (ReadsItem rule) front values)
    (fails : ∀ found, (commaStep rule found).Fails rest) :
    (commaList rule).Fails (front ++ rest) := by
  intro cursor here
  obtain ⟨more, middle, there, enough, goesOn⟩ :=
    exists_repeatStep_of_led led [] here (Nat.lt_add_of_pos_right Nat.two_pos)
  obtain ⟨more, rfl⟩ := Nat.exists_eq_succ_of_ne_zero (Nat.ne_zero_of_lt enough)
  rw [commaList_eq, loop, goesOn]
  simp only [repeatStep, fails _ middle there]

end Rule

end DocApi.Source
