import DocApi.Source.Rule
import Mathlib.Data.List.Basic

/-!
# What rules leave and give

A rule of the grammar builds no identifiers: a property that holds of all identifiers in the trees
ahead also holds of those that the rule leaves and of those in what it gives. Both are said of one
rule after the other. What a rule leaves of a group does not matter, since reading goes on after the
group.
-/

namespace DocApi.Source

/-! ## Identifiers ahead -/

/-- Whether all identifiers in a tree have a property. -/
inductive Tree.Holds (p : Ident → Prop) : Tree → Prop
  | ident {ident : Ident} (own : p ident) : Holds p (.ident ident)
  | punct (mark : Char) (joint : Bool) : Holds p (.punct mark joint)
  | literal (literal : Literal) : Holds p (.literal literal)
  | group {body : List Tree} (delimiter : Delimiter) (inside : ∀ tree ∈ body, Holds p tree) :
      Holds p (.group delimiter body)

/-- Whether all identifiers in the trees ahead have a property. -/
def Cursor.Holds (p : Ident → Prop) (cursor : Cursor) : Prop := ∀ tree ∈ cursor.rest, tree.Holds p

namespace Rule

variable {α β σ : Type} {p : Ident → Prop}

/-- Whether a rule leaves only identifiers with a property if it starts with such. -/
def Passes (p : Ident → Prop) (rule : Rule α) : Prop :=
  ∀ ⦃cursor value after⦄, cursor.Holds p → rule cursor = some (value, after) → after.Holds p

/-- Whether a rule that starts with identifiers with a property gives only what is `wanted`. -/
def Gives (p : Ident → Prop) (rule : Rule α) (wanted : α → Prop) : Prop :=
  ∀ ⦃cursor value after⦄, cursor.Holds p → rule cursor = some (value, after) → wanted value

theorem exists_of_bind {rule : Rule α} {next : α → Rule β} {cursor after : Cursor} {result : β}
    (ran : (rule >>= next) cursor = some (result, after)) :
    ∃ value middle, rule cursor = some (value, middle) ∧
      next value middle = some (result, after) := by
  change Rule.bind rule next cursor = _ at ran
  rw [Rule.bind] at ran
  cases first : rule cursor with
  | none =>
      rw [first] at ran
      cases ran
  | some found =>
      rw [first] at ran
      exact ⟨found.1, found.2, rfl, ran⟩

theorem rest_of_anyIdent {cursor after : Cursor} {found : Ident}
    (ran : anyIdent cursor = some (found, after)) : cursor.rest = .ident found :: after.rest := by
  unfold anyIdent at ran
  split at ran
  · rename_i front
    cases ran
    exact front
  · cases ran

theorem rest_of_ident {cursor after : Cursor} {found : Ident}
    (ran : ident cursor = some (found, after)) : cursor.rest = .ident found :: after.rest := by
  unfold ident at ran
  split at ran
  · rename_i front
    split at ran
    · cases ran
      exact front
    · cases ran
  · cases ran

theorem exists_of_within {delimiter : Delimiter} {rule : Rule α} {cursor after : Cursor} {value : α}
    (ran : within delimiter rule cursor = some (value, after)) :
    ∃ body inside, cursor.rest = .group delimiter body :: after.rest ∧
      rule { cursor with rest := body } = some (value, inside) := by
  unfold within at ran
  split at ran
  · rename_i front
    split at ran
    · rename_i same
      split at ran
      · rename_i ranInner
        cases ran
        exact ⟨_, _, same ▸ front, ranInner⟩
      · cases ran
    · cases ran
  · cases ran

/-! ### What rules leave -/

@[grind ←] theorem passes_pure (value : α) : Passes p (pure value : Rule α) := by
  rintro cursor _ _ holds ⟨⟩
  exact holds

@[grind ←] theorem passes_bind {rule : Rule α} {next : α → Rule β} (first : Passes p rule)
    (second : ∀ value, Passes p (next value)) : Passes p (rule >>= next) := by
  intro cursor result after holds ran
  obtain ⟨value, middle, ranFirst, ranSecond⟩ := exists_of_bind ran
  exact second value (first holds ranFirst) ranSecond

theorem passes_ite {condition : Prop} [Decidable condition] {yes no : Rule α}
    (first : Passes p yes) (second : Passes p no) : Passes p (if condition then yes else no) := by
  split
  · exact first
  · exact second

@[grind ←] theorem passes_fail : Passes p (fail : Rule α) := by
  rintro cursor _ _ _ ⟨⟩

@[grind ←] theorem passes_ahead (condition : List Tree → Bool) : Passes p (ahead condition) := by
  rintro cursor _ _ holds ⟨⟩
  exact holds

@[grind ←] theorem passes_atEnd : Passes p atEnd := passes_ahead _

@[grind ←] theorem passes_require (condition : Bool) : Passes p (require condition) := by
  unfold require
  grind

/-- What a rule leaves that drops trees from the front. -/
theorem holds_of_suffix {cursor after : Cursor} (holds : cursor.Holds p)
    (left : after.rest <:+ cursor.rest) : after.Holds p :=
  fun tree member => holds tree (left.subset member)

@[grind ←] theorem passes_punct (marks : String) : Passes p (punct marks) := by
  intro cursor _ after holds ran
  unfold punct at ran
  split at ran
  · cases ran
    exact holds_of_suffix holds (List.drop_suffix _ _)
  · cases ran

@[grind ←] theorem passes_word (text : String) : Passes p (word text) := by
  intro cursor _ after holds ran
  unfold word at ran
  split at ran
  · cases ran
    exact holds_of_suffix holds (List.drop_suffix _ _)
  · cases ran

@[grind ←] theorem passes_punct? (marks : String) : Passes p (punct? marks) := by
  unfold punct?
  grind

@[grind ←] theorem passes_word? (text : String) : Passes p (word? text) := by
  unfold word?
  grind

@[grind ←] theorem passes_anyIdent : Passes p anyIdent :=
  fun _ _ _ holds ran => holds_of_suffix holds ⟨[_], (rest_of_anyIdent ran).symm⟩

@[grind ←] theorem passes_ident : Passes p ident :=
  fun _ _ _ holds ran => holds_of_suffix holds ⟨[_], (rest_of_ident ran).symm⟩

@[grind ←] theorem passes_lifetime : Passes p lifetime := by
  intro cursor _ after holds ran
  unfold lifetime at ran
  split at ran
  · rename_i front
    cases ran
    exact holds_of_suffix holds ⟨[_, _], front.symm⟩
  · cases ran

@[grind ←] theorem passes_lifetime? : Passes p lifetime? := by
  unfold lifetime?
  grind

@[grind ←] theorem passes_literal : Passes p literal := by
  intro cursor _ after holds ran
  unfold literal at ran
  split at ran
  · rename_i front
    cases ran
    exact holds_of_suffix holds ⟨[_], front.symm⟩
  · rename_i front
    split at ran
    · cases ran
      exact holds_of_suffix holds ⟨[_], front.symm⟩
    · cases ran
  · rename_i front
    cases ran
    exact holds_of_suffix holds ⟨[_, _], front.symm⟩
  · rename_i front
    cases ran
    exact holds_of_suffix holds ⟨[_, _], front.symm⟩
  · cases ran

@[grind ←] theorem passes_text : Passes p text := by
  refine passes_bind passes_literal fun value => ?_
  split
  · exact passes_pure _
  · exact passes_fail

@[grind ←] theorem passes_groupTrees (delimiter : Delimiter) : Passes p (groupTrees delimiter) := by
  intro cursor _ after holds ran
  unfold groupTrees at ran
  split at ran
  · rename_i front
    split at ran
    · cases ran
      exact holds_of_suffix holds ⟨[_], front.symm⟩
    · cases ran
  · cases ran

@[grind ←] theorem passes_anyGroup : Passes p anyGroup := by
  intro cursor _ after holds ran
  unfold anyGroup at ran
  split at ran
  · rename_i front
    cases ran
    exact holds_of_suffix holds ⟨[_], front.symm⟩
  · cases ran

/-- Whatever a rule does within a group, the trees after the group are next. -/
@[grind ←] theorem passes_within (delimiter : Delimiter) (rule : Rule α) :
    Passes p (within delimiter rule) := by
  intro cursor _ after holds ran
  obtain ⟨body, inside, front, -⟩ := exists_of_within ran
  exact holds_of_suffix holds ⟨[_], front.symm⟩

@[grind ←] theorem passes_capture {rule : Rule α} (inner : Passes p rule) :
    Passes p (capture rule) := by
  intro cursor _ after holds ran
  unfold capture at ran
  split at ran
  · rename_i ranInner
    cases ran
    have left := @inner ⟨cursor.rest, cursor.stray, []⟩ _ _ holds ranInner
    exact left
  · cases ran

@[grind ←] theorem passes_dropItems {rule : Rule α} (inner : Passes p rule) :
    Passes p (dropItems rule) := by
  unfold dropItems
  grind

@[grind ←] theorem passes_collect (items : List Item) : Passes p (collect items) := by
  rintro cursor _ _ holds ⟨⟩
  exact holds

/-! ### What rules give -/

/-- Whether a rule leaves only identifiers with a property and gives only what is `wanted`, if it
starts with such identifiers. -/
structure Keeps (p : Ident → Prop) (rule : Rule α) (wanted : α → Prop) : Prop where
  passes : Passes p rule
  gives : Gives p rule wanted

section Keeps

variable {rule : Rule α} {next : α → Rule β} {middle : α → Prop} {wanted : β → Prop}

theorem Gives.bind (first : Keeps p rule middle)
    (second : ∀ value, middle value → Gives p (next value) wanted) :
    Gives p (rule >>= next) wanted := by
  intro cursor result after holds ran
  obtain ⟨value, between, ranFirst, ranSecond⟩ := exists_of_bind ran
  exact second value (first.gives holds ranFirst) (first.passes holds ranFirst) ranSecond

theorem Keeps.bind (first : Keeps p rule middle)
    (second : ∀ value, middle value → Keeps p (next value) wanted) :
    Keeps p (rule >>= next) wanted where
  passes cursor result after holds ran := by
    obtain ⟨value, between, ranFirst, ranSecond⟩ := exists_of_bind ran
    exact (second value (first.gives holds ranFirst)).passes (first.passes holds ranFirst) ranSecond
  gives := Gives.bind first fun value good => (second value good).gives

theorem Passes.keeps (passes : Passes p rule) : Keeps p rule fun _ => True :=
  ⟨passes, fun _ _ _ _ _ => trivial⟩

/-- A rule whose result does not matter, followed by another one. -/
theorem Passes.bind (first : Passes p rule) (second : ∀ value, Keeps p (next value) wanted) :
    Keeps p (rule >>= next) wanted :=
  first.keeps.bind fun value _ => second value

/-- A result that is known before the last rule. -/
theorem gives_last {value : β} (own : wanted value) :
    Gives p (rule >>= fun _ => pure value) wanted := by
  intro cursor result after _ ran
  obtain ⟨_, _, _, ⟨⟩⟩ := exists_of_bind ran
  exact own

theorem keeps_pure {value : β} (own : wanted value) : Keeps p (pure value) wanted where
  passes := passes_pure value
  gives := by
    rintro cursor _ _ _ ⟨⟩
    exact own

theorem keeps_fail : Keeps p fail wanted where
  passes := passes_fail
  gives := by rintro cursor _ _ _ ⟨⟩

theorem keeps_ite {condition : Prop} [Decidable condition] {yes no : Rule β}
    (first : Keeps p yes wanted) (second : Keeps p no wanted) :
    Keeps p (if condition then yes else no) wanted := by
  split
  · exact first
  · exact second

/-- A part that may be missing in front of what always follows. -/
theorem keeps_optional {condition : Prop} [Decidable condition] {longer shorter : Rule β}
    (second : Keeps p shorter wanted) (first : Keeps p shorter wanted → Keeps p longer wanted) :
    Keeps p (if condition then longer else shorter) wanted :=
  keeps_ite (first second) second

/-- A choice between two rules by what a third one finds. -/
theorem keeps_choice {test : Rule Bool} {yes no : Rule β} (tested : Passes p test)
    (first : Keeps p yes wanted) (second : Keeps p no wanted) :
    Keeps p (test >>= fun found => if found = true then yes else no) wanted :=
  tested.bind fun _ => keeps_ite first second

theorem keeps_anyIdent : Keeps p anyIdent p where
  passes := passes_anyIdent
  gives cursor found after holds ran := by
    cases holds (.ident found) (rest_of_anyIdent ran ▸ List.mem_cons_self) with
    | ident own => exact own

theorem keeps_ident : Keeps p ident p where
  passes := passes_ident
  gives cursor found after holds ran := by
    cases holds (.ident found) (rest_of_ident ran ▸ List.mem_cons_self) with
    | ident own => exact own

theorem keeps_within {rule : Rule β} (delimiter : Delimiter) (inner : Gives p rule wanted) :
    Keeps p (within delimiter rule) wanted where
  passes := passes_within delimiter rule
  gives cursor value after holds ran := by
    obtain ⟨body, inside, front, ranInner⟩ := exists_of_within ran
    cases holds (.group delimiter body) (front ▸ List.mem_cons_self) with
    | group _ enclosed => exact @inner ⟨body, _, _⟩ _ _ enclosed ranInner

/-- What a rule gives that reads all of the trees. -/
theorem Gives.parseAll {rule : Rule β} (gives : Gives p rule wanted) {trees : List Tree} {value : β}
    (holds : ∀ tree ∈ trees, tree.Holds p) (read : rule.parseAll trees = some value) :
    wanted value := by
  unfold Rule.parseAll at read
  split at read
  · rename_i result cursor ran
    split at read
    · cases read
      exact @gives ⟨trees, false, []⟩ _ _ holds ran
    · cases read
  · cases read

end Keeps

/-! ### Loops -/

section Loops

variable {step : σ → Rule (Step σ β)} {wanted : β → Prop}

/-- What a step of a loop may decide: to go on in a good state, or to end with what is wanted. -/
def Step.Holds (good : σ → Prop) (wanted : β → Prop) : Step σ β → Prop
  | .again state => good state
  | .done result => wanted result

theorem keeps_repeatStep {good : σ → Prop}
    (once : ∀ state, good state → Keeps p (step state) (Step.Holds good wanted)) (count : Nat)
    {state : σ} (start : good state) : Keeps p (repeatStep step count state) wanted := by
  induction count generalizing state with
  | zero => exact keeps_fail
  | succ count induction =>
      have own := once state start
      have both : ∀ ⦃cursor value after⦄, cursor.Holds p →
          repeatStep step (count + 1) state cursor = some (value, after) →
          wanted value ∧ after.Holds p := by
        intro cursor value after holds ran
        unfold repeatStep at ran
        split at ran
        · cases ran
        · rename_i next middle ranOnce
          have later := induction (own.gives holds ranOnce)
          have held := own.passes holds ranOnce
          exact ⟨later.gives held ran, later.passes held ran⟩
        · rename_i result middle ranOnce
          cases ran
          exact ⟨own.gives holds ranOnce, own.passes holds ranOnce⟩
      exact ⟨fun _ _ _ holds ran => (both holds ran).2, fun _ _ _ holds ran => (both holds ran).1⟩

theorem keeps_loop (good : σ → Prop)
    (once : ∀ state, good state → Keeps p (step state) (Step.Holds good wanted)) {state : σ}
    (start : good state) : Keeps p (loop step state) wanted where
  passes _ _ _ holds ran := (keeps_repeatStep once _ start).passes holds ran
  gives _ _ _ holds ran := (keeps_repeatStep once _ start).gives holds ran

@[grind ←] theorem passes_loop (once : ∀ state, Passes p (step state)) (state : σ) :
    Passes p (loop step state) := by
  have any : ∀ decision : Step σ β, decision.Holds (fun _ => True) fun _ => True := by
    rintro (_ | _) <;> trivial
  have free : Keeps p (loop step state) fun _ => True :=
    keeps_loop (fun _ => True) (fun state _ => ⟨once state, fun _ _ _ _ _ => any _⟩) trivial
  exact free.passes

end Loops

@[grind ←] theorem passes_whileAhead (condition : List Tree → Bool) {rule : Rule α}
    (once : Passes p rule) : Passes p (whileAhead condition rule) := by
  unfold whileAhead
  grind

@[grind ←] theorem passes_commaList {rule : Rule α} (once : Passes p rule) :
    Passes p (commaList rule) := by
  unfold commaList
  grind

end Rule

end DocApi.Source
