import DocApi.Source.Rule

/-!
# Running rules

What rules do where a text stands: one after the other, in a loop, and where what they look for is
missing.
-/

namespace DocApi.Source

namespace Rule

variable {α β σ : Type}

/-! ## One rule after the other -/

@[simp] theorem pure_apply (value : α) (cursor : Cursor) :
    (pure value : Rule α) cursor = some (value, cursor) := rfl

@[simp] theorem ahead_bind_apply (condition : List Tree → Bool) (next : Bool → Rule β)
    (cursor : Cursor) : (ahead condition >>= next) cursor = next (condition cursor.rest) cursor :=
  rfl

theorem bind_apply {rule : Rule α} {next : α → Rule β} {cursor after : Cursor} {value : α}
    (ran : rule cursor = some (value, after)) : (rule >>= next) cursor = next value after := by
  change Rule.bind rule next cursor = _
  simp [Rule.bind, ran]

theorem punct?_of_absent {marks : String} {cursor : Cursor}
    (absent : isPunct marks cursor.rest = false) : punct? marks cursor = some (false, cursor) := by
  simp [punct?, absent]

theorem word?_of_absent {text : String} {cursor : Cursor}
    (absent : isWord text cursor.rest = false) : word? text cursor = some (false, cursor) := by
  simp [word?, absent]

/-- What a rule leaves of a group is noted; when it leaves nothing, nothing is. -/
theorem within_of_reads {rule : Rule α} {delimiter : Delimiter} {body : List Tree} {stray : Bool}
    {found after : List Item} {value : α}
    (ran : rule ⟨body, stray, found⟩ = some (value, ⟨[], stray, after⟩)) (rest : List Tree) :
    within delimiter rule ⟨.group delimiter body :: rest, stray, found⟩ =
      some (value, ⟨rest, stray, after⟩) := by
  simp [within, ran]

/-! ## Loops -/

/-- The steps of a loop up to its result. Each step but the last reads something. -/
inductive Runs (step : σ → Rule (Step σ β)) : σ → Cursor → β → Cursor → Prop
  | done {state : σ} {cursor after : Cursor} {result : β}
      (ran : step state cursor = some (.done result, after)) : Runs step state cursor result after
  | again {state next : σ} {cursor middle after : Cursor} {result : β}
      (ran : step state cursor = some (.again next, middle))
      (shorter : middle.rest.length < cursor.rest.length)
      (later : Runs step next middle result after) : Runs step state cursor result after

theorem Runs.repeatStep {step : σ → Rule (Step σ β)} {state : σ} {cursor after : Cursor}
    {result : β} (runs : Runs step state cursor result after) {count : Nat}
    (enough : cursor.rest.length < count) :
    repeatStep step count state cursor = some (result, after) := by
  induction runs generalizing count with
  | done ran =>
      obtain ⟨count, rfl⟩ := Nat.exists_eq_succ_of_ne_zero (Nat.ne_zero_of_lt enough)
      simp only [Rule.repeatStep, ran]
  | again ran shorter later induction =>
      obtain ⟨count, rfl⟩ := Nat.exists_eq_succ_of_ne_zero (Nat.ne_zero_of_lt enough)
      simp only [Rule.repeatStep, ran]
      exact induction (by omega)

/-- A loop is repeated often enough for all its steps. -/
theorem Runs.loop {step : σ → Rule (Step σ β)} {state : σ} {cursor after : Cursor} {result : β}
    (runs : Runs step state cursor result after) :
    Rule.loop step state cursor = some (result, after) :=
  runs.repeatStep (by omega)

/-- Steps that each read one item of a list, the last of which ends the loop. -/
theorem runs_items {ι : Type} {Reads : ι → Prop} {step : σ → Rule (Step σ β)} {after : Cursor}
    (cursor : List ι → Cursor) (push : σ → ι → σ) (finish : σ → β)
    (again : ∀ (state : σ) {item : ι} (next : ι) (others : List ι), Reads item →
      step state (cursor (item :: next :: others)) =
        some (.again (push state item), cursor (next :: others)))
    (shorter : ∀ (item next : ι) (others : List ι),
      (cursor (next :: others)).rest.length < (cursor (item :: next :: others)).rest.length)
    (done : ∀ (state : σ) {item : ι}, Reads item →
      step state (cursor [item]) = some (.done (finish (push state item)), after))
    (state : σ) {first : ι} {others : List ι} (reads : ∀ item ∈ first :: others, Reads item) :
    Runs step state (cursor (first :: others)) (finish ((first :: others).foldl push state))
      after := by
  induction others generalizing first state with
  | nil => exact .done (done state (reads first List.mem_cons_self))
  | cons next others induction =>
      have later := induction (push state first)
        fun item member => reads item (List.mem_cons_of_mem first member)
      exact .again (again state next others (reads first List.mem_cons_self))
        (shorter first next others) later

end Rule

/-! ## Looking at the first tree -/

@[simp] theorem startsPunct_ident (mark : Char) (marks : List Char) (ident : Ident)
    (trees : List Tree) : startsPunct (mark :: marks) (.ident ident :: trees) = false := by
  cases marks <;> rfl

@[simp] theorem startsPunct_literal (mark : Char) (marks : List Char) (literal : Literal)
    (trees : List Tree) : startsPunct (mark :: marks) (.literal literal :: trees) = false := by
  cases marks <;> rfl

@[simp] theorem startsPunct_group (mark : Char) (marks : List Char) (delimiter : Delimiter)
    (body trees : List Tree) :
    startsPunct (mark :: marks) (.group delimiter body :: trees) = false := by
  cases marks <;> rfl

theorem startsPunct_of_ne {mark c : Char} (different : mark ≠ c) (marks : List Char) (joint : Bool)
    (trees : List Tree) : startsPunct (mark :: marks) (.punct c joint :: trees) = false := by
  cases marks <;> simp [startsPunct, different]

theorem startsPunct_cons_cons (mark next : Char) (marks : List Char) (joint : Bool)
    (trees : List Tree) : startsPunct (mark :: next :: marks) (.punct mark joint :: trees) =
      (joint && startsPunct (next :: marks) trees) := by
  simp [startsPunct]

/-- Marks of which the first ones are missing are missing. -/
theorem startsPunct_of_first {mark : Char} {trees : List Tree}
    (absent : startsPunct [mark] trees = false) (marks : List Char) :
    startsPunct (mark :: marks) trees = false := by
  cases marks with
  | nil => exact absent
  | cons next marks =>
      cases trees with
      | nil => rfl
      | cons tree trees =>
          cases tree with
          | punct c joint =>
              have different : (mark == c) = false := absent
              simp [startsPunct, different]
          | ident ident => rfl
          | literal literal => rfl
          | group delimiter body => rfl

end DocApi.Source
