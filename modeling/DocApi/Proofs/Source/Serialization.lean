import DocApi.Proofs.Source.CommaLists
import DocApi.Source.Serialization
import Mathlib.Data.List.Forall2

/-!
# Serialization attributes

The arguments of a serialization attribute are entries between commas: a key, and then nothing, a
value, or a list of entries in parentheses. How an entry is written says what it means; keys without
a meaning may stand with anything of this form, however deep their lists go. The attributes of a
declaration mean what their entries mean, one after the other: the last names, and whether any entry
asks for the declaration to be left out. An entry that should give a name and does not ends its
attribute, and no other.
-/

namespace DocApi.Source

open Grammar Rule

/-! ## Keys -/

/-- The key of an entry, as it is written. -/
structure KeyPath where
  /-- Whether it starts with `::`. -/
  rooted : Bool
  first : Ident
  /-- The words after further `::`. -/
  more : List Ident

/-- The mark `::`. -/
def colons : List Tree := [.punct ':' true, .punct ':' false]

namespace KeyPath

/-- The trees of a key. -/
def trees (key : KeyPath) : List Tree :=
  (if key.rooted then colons else []) ++
    .ident key.first :: key.more.flatMap fun ident => colons ++ [.ident ident]

/-- The only word of a key, when there is no other. -/
def word? (key : KeyPath) : Option Ident :=
  if key.rooted || !key.more.isEmpty then none else some key.first

/-- Whether a key is one plain word. -/
def isWord (key : KeyPath) (word : String) : Bool := key.word?.any (·.isWord word)

/-- A plain word as a key. -/
def ofWord (word : String) (nonempty : word ≠ "") : KeyPath := ⟨false, ⟨word, false, nonempty⟩, []⟩

theorem isWord_of_isWord {key : KeyPath} {word : String} (named : key.isWord word = true)
    (other : String) : key.isWord other = (word == other) := by
  rw [isWord, Option.any_eq_true] at named
  obtain ⟨ident, only, named⟩ := named
  rw [Ident.isWord, Bool.and_eq_true, beq_iff_eq] at named
  rw [isWord, only, Option.any_some, Ident.isWord, named.1, named.2, Bool.true_and]

theorem trees_ne_nil (key : KeyPath) (rest : List Tree) : key.trees ++ rest ≠ [] := by
  simp [trees]

/-- One step of reading the words of a key after the first. -/
def wordStep (found : List Ident) : Rule (Step (List Ident) (List Ident)) := do
  if ← ahead (isPunct "::") then
    return .again ((← (do
      punct "::"
      anyIdent)) :: found)
  else return .done found.reverse

theorem wordStep_colons (found : List Ident) (ident : Ident) (rest : List Tree) :
    (wordStep found).Reads (.again (ident :: found)) (colons ++ .ident ident :: rest) rest := by
  have word : (do
      punct "::"
      anyIdent : Rule Ident).Reads ident (colons ++ .ident ident :: rest) rest :=
    (reads_punct rfl).bind (reads_anyIdent ident rest)
  exact (reads_ahead (isPunct "::") _).bind (word.bind (reads_pure _ rest))

theorem wordStep_end (found : List Ident) {rest : List Tree}
    (noColons : isPunct "::" rest = false) :
    (wordStep found).Reads (.done found.reverse) rest rest := by
  refine (reads_ahead (isPunct "::") rest).bind ?_
  rw [noColons]
  exact reads_pure _ rest

/-- Further words are read one by one. -/
theorem runs_more (more : List Ident) {rest : List Tree} (noColons : isPunct "::" rest = false)
    (found : List Ident) {cursor : Cursor}
    (here : cursor.rest = (more.flatMap fun ident => colons ++ [.ident ident]) ++ rest) :
    ∃ after, after.rest = rest ∧ Runs wordStep found cursor (found.reverse ++ more) after := by
  induction more generalizing found cursor with
  | nil =>
      obtain ⟨after, left, ran⟩ := wordStep_end found noColons cursor here
      rw [List.append_nil]
      exact ⟨after, left, .done ran⟩
  | cons ident more induction =>
      rw [List.flatMap_cons, List.append_assoc, List.append_assoc, List.singleton_append] at here
      obtain ⟨middle, there, ran⟩ := wordStep_colons found ident _ cursor here
      obtain ⟨after, left, runs⟩ := induction (ident :: found) there
      rw [List.reverse_cons, List.append_assoc, List.singleton_append] at runs
      refine ⟨after, left, .again ran ?_ runs⟩
      rw [there, here]
      simp only [List.length_append, List.length_cons]
      omega

/-- A key is read to its end. -/
theorem reads (key : KeyPath) {rest : List Tree} (noColons : isPunct "::" rest = false) :
    Serialization.key.Reads key.word? (key.trees ++ rest) rest := by
  obtain ⟨rooted, first, more⟩ := key
  let behind := (more.flatMap fun ident => colons ++ [.ident ident]) ++ rest
  have start : (punct? "::").Reads rooted ((KeyPath.mk rooted first more).trees ++ rest)
      (.ident first :: behind) := by
    cases rooted with
    | true =>
        exact (reads_ahead (isPunct "::") _).bind ((reads_punct rfl).bind (reads_pure true _))
    | false => exact (reads_ahead (isPunct "::") _).bind (reads_pure false _)
  have further : (whileAhead (isPunct "::") (do
      punct "::"
      anyIdent)).Reads more behind rest := by
    intro cursor here
    obtain ⟨after, left, runs⟩ := runs_more more noColons [] here
    exact ⟨after, left, runs.loop⟩
  exact start.bind ((reads_anyIdent first behind).bind (further.bind (reads_pure _ rest)))

end KeyPath

/-! ## Lists in parentheses -/

section Nested

variable {α : Type} {entry : Rule α} {body : List Tree} {values : List α}

theorem reads_nested (nonempty : body ≠ []) (listed : Listed (ReadsItem entry) body values)
    (rest : List Tree) :
    (Serialization.nested entry).Reads values (.group .paren body :: rest) rest := by
  have inside : (do
      require !(← atEnd)
      commaList entry : Rule (List α)).Reads values body [] := by
    refine (reads_ahead List.isEmpty body).bind ?_
    rw [List.isEmpty_eq_false_iff.2 nonempty]
    exact (reads_pure () body).bind (reads_commaList listed)
  exact inside.within rest

theorem fails_nested (nonempty : body ≠ []) (fails : (commaList entry).Fails body)
    (rest : List Tree) : (Serialization.nested entry).Fails (.group .paren body :: rest) := by
  have inside : (do
      require !(← atEnd)
      commaList entry : Rule (List α)).Fails body := by
    refine (reads_ahead List.isEmpty body).bind_fails ?_
    rw [List.isEmpty_eq_false_iff.2 nonempty]
    exact (reads_pure () body).bind_fails fails
  exact inside.within rest

end Nested

/-! ## Names -/

/-- `key = "name"` in a list of names, and the name when it is given for serializing. -/
inductive DirectedName : List Tree → Option String → Prop
  | intro (key : KeyPath) (joint : Bool) (name : String) :
      DirectedName (key.trees ++ [.punct '=' joint, .literal (.text name)])
        (if key.isWord "serialize" then some name else none)

/-- What gives a name after a key: `= "name"`, or a list with names for one direction each. The last
name for serializing counts. -/
inductive NameGiven : List Tree → Option String → Prop
  | alone (joint : Bool) (name : String) :
      NameGiven [.punct '=' joint, .literal (.text name)] (some name)
  | listed {body : List Tree} {names : List (Option String)} (nonempty : body ≠ [])
      (listed : Listed DirectedName body names) :
      NameGiven [.group .paren body] (names.filterMap id).getLast?

/-- A text after a key. -/
theorem reads_directedName (key : KeyPath) (joint : Bool) (name : String) (rest : List Tree) :
    Serialization.directedName.Reads (if key.isWord "serialize" then some name else none)
      (key.trees ++ .punct '=' joint :: .literal (.text name) :: rest) rest := by
  have noColons : isPunct "::" (.punct '=' joint :: .literal (.text name) :: rest) = false :=
    startsPunct_of_ne (by decide) [':'] joint _
  exact (key.reads noColons).bind ((reads_punct rfl).bind
    ((reads_text name rest).bind (reads_pure _ rest)))

theorem DirectedName.readsItem {trees : List Tree} {name : Option String}
    (directed : DirectedName trees name) : ReadsItem Serialization.directedName trees name := by
  obtain ⟨key, joint, name⟩ := directed
  refine ⟨key.trees_ne_nil _, fun {rest} _ => ?_⟩
  rw [List.append_assoc]
  exact reads_directedName key joint name rest

theorem NameGiven.reads {trees : List Tree} {name : Option String} (given : NameGiven trees name)
    (rest : List Tree) : Serialization.serializedName.Reads name (trees ++ rest) rest := by
  cases given with
  | alone joint name =>
      have equals : isPunct "=" (.punct '=' joint :: .literal (.text name) :: rest) = true := rfl
      refine (reads_ahead (isPunct "=") _).bind ?_
      rw [List.cons_append, List.singleton_append, equals]
      exact (reads_punct equals).bind ((reads_text name rest).bind (reads_pure _ rest))
  | @listed body names nonempty listed =>
      have read : Listed (ReadsItem Serialization.directedName) body names :=
        listed.imp fun _ _ _ directed => directed.readsItem
      exact (reads_ahead (isPunct "=") _).bind
        ((reads_nested nonempty read rest).bind (reads_pure _ rest))

/-! ## Keys without a meaning -/

/-- Trees that are read as an expression up to the end of an entry, by a grammar that is unfolded
deep enough for them. -/
def IsExpression (value : List Tree) : Prop :=
  ∀ ⦃depth : Nat⦄, 16 * (treesSize value + 4) ≤ depth → ∀ ⦃rest : List Tree⦄, EndsEntry rest →
    ∃ shape, ((Grammar.ofDepth depth).expr true).Reads shape (value ++ rest) rest

/-- Trees that need the grammar only three levels deep are an expression when such a grammar reads
them. -/
theorem isExpression_of_reads {value : List Tree} (shape : ExprShape)
    (reads : ∀ (depth : Nat) {rest : List Tree} (stray : Bool) (found : List Item), EndsEntry rest →
      ∃ after : Cursor, after.rest = rest ∧
        (Grammar.ofDepth (depth + 3)).expr true ⟨value ++ rest, stray, found⟩ =
          some (shape, after)) :
    IsExpression value := by
  intro depth deep rest ends
  obtain ⟨depth, rfl⟩ : ∃ others, depth = others + 3 := ⟨depth - 3, by omega⟩
  refine ⟨shape, fun cursor here => ?_⟩
  obtain ⟨trees, stray, found⟩ := cursor
  subst here
  exact reads depth stray found ends

/-- A number or another literal is an expression. -/
theorem isExpression_literal (literal : Literal) : IsExpression [.literal literal] := by
  refine isExpression_of_reads .other fun depth rest stray found ends => ?_
  cases ends with
  | nil => exact ⟨_, rfl, rfl⟩
  | comma joint rest => exact ⟨_, rfl, rfl⟩

/-- A key with what follows it. -/
inductive KeyThen (follows : List Tree → Prop) : List Tree → Unit → Prop
  | intro (key : KeyPath) {trees : List Tree} (after : follows trees) :
      KeyThen follows (key.trees ++ trees) ()

/-- What may follow a key that has no meaning: nothing, a value, or a list of such keys, each with
what follows it, in parentheses. -/
inductive Skips : List Tree → Prop
  | bare : Skips []
  | value (joint : Bool) {value : List Tree} (expression : IsExpression value) :
      Skips (.punct '=' joint :: value)
  | list {body : List Tree} {entries : List Unit} (nonempty : body ≠ [])
      (listed : Listed (KeyThen Skips) body entries) : Skips [.group .paren body]

/-- What follows a key is not the mark between its words. -/
theorem Skips.noColons {trees rest : List Tree} (skips : Skips trees) (ends : EndsEntry rest) :
    isPunct "::" (trees ++ rest) = false := by
  cases skips with
  | bare => exact ends.startsPunct (by decide) [':']
  | value joint expression => exact startsPunct_of_ne (by decide) [':'] joint _
  | list nonempty listed => exact startsPunct_group ':' [':'] .paren _ rest

/-- Whatever follows the key is read to its end, when its lists are not deeper than is allowed. -/
theorem Skips.reads {trees rest : List Tree} {deep depth : Nat} (skips : Skips trees)
    (unfolded : 16 * (treesSize trees + 4) ≤ deep) (shallow : treesSize trees < depth)
    (ends : EndsEntry rest) :
    (Serialization.skipValue (.ofDepth deep) depth).Reads () (trees ++ rest) rest := by
  induction depth generalizing trees rest with
  | zero => cases shallow
  | succ depth induction =>
      cases skips with
      | bare =>
          have noEquals : isPunct "=" rest = false := ends.startsPunct (by decide) []
          have noGroup : isGroup .paren rest = false := by cases ends <;> rfl
          refine (reads_ahead (isPunct "=") rest).bind ?_
          rw [noEquals]
          refine (reads_ahead (isGroup .paren) rest).bind ?_
          rw [noGroup]
          exact reads_pure () rest
      | @value joint value expression =>
          have equals : isPunct "=" (.punct '=' joint :: (value ++ rest)) = true := rfl
          simp only [treesSize] at unfolded
          have enough : 16 * (treesSize value + 4) ≤ deep := by omega
          obtain ⟨shape, read⟩ := expression enough ends
          refine (reads_ahead (isPunct "=") _).bind ?_
          rw [List.cons_append, equals]
          exact (reads_punct equals).bind (read.bind (reads_pure () rest))
      | @list body entries nonempty listed =>
          simp only [treesSize, Tree.size] at unfolded shallow
          have items : Listed (ReadsItem (do
              let _ ← Serialization.key
              Serialization.skipValue (.ofDepth deep) depth)) body entries := by
            refine listed.imp fun part value small keyed => ?_
            obtain ⟨key, after⟩ := keyed
            rw [treesSize_append] at small
            refine ⟨key.trees_ne_nil _, fun {rest} ends => ?_⟩
            rw [List.append_assoc]
            exact (key.reads (after.noColons ends)).bind
              (induction after (by omega) (by omega) ends)
          exact (reads_ahead (isPunct "=") _).bind ((reads_ahead (isGroup .paren) _).bind
            ((reads_nested nonempty items rest).bind (reads_pure () rest)))

/-! ## Entries -/

/-- What an entry says. -/
inductive Entry where
  /-- A name, unless it is only given for the other direction. -/
  | rename (name : Option String)
  /-- A rule for names, unless it is only given for the other direction. -/
  | renameAll (rule : Option String)
  | skip
  | omitEmpty
  | unknown
deriving DecidableEq

namespace Entry

/-- What an entry changes. -/
def apply : Entry → Serialization → Serialization
  | .rename name, found => { found with rename := name.or found.rename }
  | .renameAll rule, found => { found with renameAll := rule.or found.renameAll }
  | .skip, found => { found with skip := true }
  | .omitEmpty, found => { found with omitEmpty := true }
  | .unknown, found => found

/-- The name that an entry gives. -/
def name? : Entry → Option String
  | .rename name => name
  | _ => none

/-- The rule for names that an entry gives. -/
def rule? : Entry → Option String
  | .renameAll rule => rule
  | _ => none

end Entry

/-- The keys that have a meaning. -/
def knownKeys : List String :=
  ["rename", "rename_all", "skip", "skip_serializing", "skip_serializing_if"]

/-- How an entry is written. -/
inductive Spells : List Tree → Entry → Prop
  | rename {key : KeyPath} (named : key.isWord "rename" = true) {trees : List Tree}
      {name : Option String} (given : NameGiven trees name) :
      Spells (key.trees ++ trees) (.rename name)
  | renameAll {key : KeyPath} (named : key.isWord "rename_all" = true) {trees : List Tree}
      {rule : Option String} (given : NameGiven trees rule) :
      Spells (key.trees ++ trees) (.renameAll rule)
  | skip {key : KeyPath} (named : key.isWord "skip" = true ∨ key.isWord "skip_serializing" = true) :
      Spells (key.trees ++ []) .skip
  | omitEmpty {key : KeyPath} (named : key.isWord "skip_serializing_if" = true) (joint : Bool)
      (condition : String) :
      Spells (key.trees ++ [.punct '=' joint, .literal (.text condition)]) .omitEmpty
  | unknown {key : KeyPath} (other : ∀ word ∈ knownKeys, key.isWord word = false)
      {trees : List Tree} (skips : Skips trees) : Spells (key.trees ++ trees) .unknown

theorem NameGiven.noColons {trees : List Tree} {name : Option String} (given : NameGiven trees name)
    (rest : List Tree) : isPunct "::" (trees ++ rest) = false := by
  cases given with
  | alone joint name => exact startsPunct_of_ne (by decide) [':'] joint _
  | listed nonempty listed => exact startsPunct_group ':' [':'] .paren _ rest

/-- What is read of an entry after its key. -/
def entryRest (g : Grammar) (depth : Nat) (key : KeyPath) : Rule (Serialization → Serialization) :=
  if key.isWord "rename" then do
    return (Entry.rename (← Serialization.serializedName)).apply
  else if key.isWord "rename_all" then do
    return (Entry.renameAll (← Serialization.serializedName)).apply
  else if key.isWord "skip" || key.isWord "skip_serializing" then
    return Entry.skip.apply
  else if key.isWord "skip_serializing_if" then do
    punct "="
    let _ ← text
    return Entry.omitEmpty.apply
  else do
    Serialization.skipValue g depth
    return Entry.unknown.apply

section Key

variable {g : Grammar} {depth : Nat} {key : KeyPath} {trees : List Tree}

/-- An entry is read when what follows its key is. -/
theorem reads_entry {change : Serialization → Serialization} {rest : List Tree}
    (noColons : isPunct "::" (trees ++ rest) = false)
    (later : (entryRest g depth key).Reads change (trees ++ rest) rest) :
    (Serialization.entry g depth).Reads change (key.trees ++ trees ++ rest) rest := by
  rw [List.append_assoc]
  exact (key.reads noColons).bind later

theorem fails_entry (noColons : isPunct "::" trees = false)
    (later : (entryRest g depth key).Fails trees) :
    (Serialization.entry g depth).Fails (key.trees ++ trees) :=
  (key.reads noColons).bind_fails later

theorem entryRest_rename (named : key.isWord "rename" = true) :
    entryRest g depth key = do return (Entry.rename (← Serialization.serializedName)).apply :=
  if_pos named

theorem entryRest_renameAll (named : key.isWord "rename_all" = true) :
    entryRest g depth key = do return (Entry.renameAll (← Serialization.serializedName)).apply := by
  simp [entryRest, KeyPath.isWord_of_isWord named]

theorem entryRest_skip (named : key.isWord "skip" = true ∨ key.isWord "skip_serializing" = true) :
    entryRest g depth key = pure Entry.skip.apply := by
  obtain named | named := named <;> simp [entryRest, KeyPath.isWord_of_isWord named]

theorem entryRest_omitEmpty (named : key.isWord "skip_serializing_if" = true) :
    entryRest g depth key = do
      punct "="
      let _ ← text
      return Entry.omitEmpty.apply := by
  simp [entryRest, KeyPath.isWord_of_isWord named]

theorem entryRest_unknown (other : ∀ word ∈ knownKeys, key.isWord word = false) :
    entryRest g depth key = do
      Serialization.skipValue g depth
      return Entry.unknown.apply := by
  simp only [knownKeys, List.forall_mem_cons] at other
  simp [entryRest, other]

theorem NameGiven.reads_rename {name : Option String} (given : NameGiven trees name)
    (named : key.isWord "rename" = true) (rest : List Tree) :
    (Serialization.entry g depth).Reads (Entry.rename name).apply (key.trees ++ trees ++ rest)
      rest := by
  refine reads_entry (given.noColons rest) ?_
  rw [entryRest_rename named]
  exact (given.reads rest).bind (reads_pure _ rest)

theorem NameGiven.reads_renameAll {rule : Option String} (given : NameGiven trees rule)
    (named : key.isWord "rename_all" = true) (rest : List Tree) :
    (Serialization.entry g depth).Reads (Entry.renameAll rule).apply (key.trees ++ trees ++ rest)
      rest := by
  refine reads_entry (given.noColons rest) ?_
  rw [entryRest_renameAll named]
  exact (given.reads rest).bind (reads_pure _ rest)

end Key

/-- An entry is read to its end, and what it changes is what it says. -/
theorem Spells.readsItem {trees : List Tree} {entry : Entry} (spells : Spells trees entry)
    {deep depth : Nat} (unfolded : 16 * (treesSize trees + 4) ≤ deep)
    (shallow : treesSize trees < depth) :
    ReadsItem (Serialization.entry (.ofDepth deep) depth) trees entry.apply := by
  cases spells with
  | rename named given => exact ⟨KeyPath.trees_ne_nil _ _, fun _ => given.reads_rename named _⟩
  | renameAll named given =>
      exact ⟨KeyPath.trees_ne_nil _ _, fun _ => given.reads_renameAll named _⟩
  | skip named =>
      refine ⟨KeyPath.trees_ne_nil _ _, fun ends => ?_⟩
      refine reads_entry (ends.startsPunct (by decide) [':']) ?_
      rw [entryRest_skip named]
      exact reads_pure _ _
  | omitEmpty named joint condition =>
      refine ⟨KeyPath.trees_ne_nil _ _, fun {rest} _ => ?_⟩
      refine reads_entry (startsPunct_of_ne (by decide) [':'] joint _) ?_
      rw [entryRest_omitEmpty named]
      exact (reads_punct rfl).bind ((reads_text condition rest).bind (reads_pure _ rest))
  | unknown other skips =>
      rw [treesSize_append] at unfolded shallow
      refine ⟨KeyPath.trees_ne_nil _ _, fun {rest} ends => ?_⟩
      refine reads_entry (skips.noColons ends) ?_
      rw [entryRest_unknown other]
      exact (skips.reads (by omega) (by omega) ends).bind (reads_pure _ rest)

/-! ## The arguments of an attribute -/

section Arguments

variable {rule : Rule (Serialization → Serialization)} {front rest trees : List Tree}
  {changes : List (Serialization → Serialization)}

/-- Reading goes on behind entries that are followed by commas. -/
theorem exists_readEntries_of_led (led : Led (ReadsItem rule) front changes) (rest : List Tree)
    (found : Serialization) {count : Nat} (enough : front.length < count) :
    ∃ more, Serialization.readEntries rule count found (front ++ rest) =
      Serialization.readEntries rule (more + 1)
        (changes.foldl (fun found change => change found) found) rest := by
  induction led generalizing found count with
  | nil =>
      obtain ⟨more, rfl⟩ := Nat.exists_eq_succ_of_ne_zero (Nat.ne_zero_of_lt enough)
      exact ⟨more, rfl⟩
  | @cons trees others change changes first joint later induction =>
      obtain ⟨count, rfl⟩ := Nat.exists_eq_succ_of_ne_zero (Nat.ne_zero_of_lt enough)
      have shorter : others.length < count := by
        rw [List.length_append, List.length_cons] at enough
        omega
      obtain ⟨more, goesOn⟩ := induction (change found) shorter
      obtain ⟨after, left, ran⟩ := first.reads (.comma joint (others ++ rest))
        ⟨trees ++ .punct ',' joint :: (others ++ rest), false, []⟩ rfl
      refine ⟨more, ?_⟩
      rw [List.append_assoc, List.cons_append, Serialization.readEntries, ran]
      simp only [left]
      exact goesOn

/-- An entry that cannot be read changes nothing. -/
theorem readEntries_of_fails (fails : rule.Fails trees) (count : Nat) (found : Serialization) :
    Serialization.readEntries rule (count + 1) found trees = found := by
  rw [Serialization.readEntries, fails _ rfl]

/-- An entry that no comma follows is the last. -/
theorem readEntries_of_reads {change : Serialization → Serialization}
    (reads : rule.Reads change trees rest) (last : isPunct "," rest = false) (count : Nat)
    (found : Serialization) :
    Serialization.readEntries rule (count + 1) found trees = change found := by
  obtain ⟨after, rfl, ran⟩ := reads ⟨trees, false, []⟩ rfl
  rw [Serialization.readEntries, ran]
  dsimp only
  split
  · rename_i joint more front
    rw [front] at last
    cases last
  · rfl

end Arguments

section Entries

variable {front trees rest : List Tree} {entries : List Entry}

/-- What entries change, one after the other. -/
def changed (entries : List Entry) (found : Serialization) : Serialization :=
  entries.foldl (fun found entry => entry.apply found) found

theorem fails_entry_nil (g : Grammar) (depth : Nat) : (Serialization.entry g depth).Fails [] := by
  rintro ⟨trees, stray, found⟩ rfl
  rfl

/-- The arguments of an attribute are read behind entries that are followed by commas. -/
theorem exists_readArguments_of_led (led : Led Spells front entries) (rest : List Tree)
    (found : Serialization) :
    ∃ depth more, treesSize (front ++ rest) < depth ∧
      Serialization.readArguments found (front ++ rest) =
        Serialization.readEntries (Serialization.entry (.forTrees (front ++ rest)) depth) (more + 1)
          (changed entries found) rest := by
  have items : Led (ReadsItem (Serialization.entry (.forTrees (front ++ rest))
      (treesSize (front ++ rest) + 1))) front (entries.map Entry.apply) := by
    refine led.map Entry.apply fun part entry small spells => ?_
    have bound := treesSize_append front rest
    exact spells.readsItem (by omega) (by omega)
  have enough : front.length < (front ++ rest).length + 1 := by
    rw [List.length_append]
    omega
  obtain ⟨more, goesOn⟩ := exists_readEntries_of_led items rest found enough
  rw [List.foldl_map] at goesOn
  exact ⟨_, more, Nat.lt_succ_self _, goesOn⟩

/-- The entries of an attribute change what is found one after the other. -/
theorem readArguments_of_listed (listed : Listed Spells trees entries) (found : Serialization) :
    Serialization.readArguments found trees = changed entries found := by
  cases listed with
  | closed led =>
      obtain ⟨depth, more, -, goesOn⟩ := exists_readArguments_of_led led [] found
      rw [List.append_nil] at goesOn
      rw [goesOn, readEntries_of_fails (fails_entry_nil _ depth)]
  | @opened front trees entries entry led last =>
      obtain ⟨depth, more, enough, goesOn⟩ := exists_readArguments_of_led led trees found
      have bound := treesSize_append front trees
      have item : ReadsItem (Serialization.entry (.forTrees (front ++ trees)) depth) trees
          entry.apply := last.readsItem (by omega) (by omega)
      have alone := item.reads .nil
      rw [List.append_nil] at alone
      rw [goesOn, readEntries_of_reads alone rfl, changed, changed, List.foldl_append]
      rfl

/-- An entry that cannot be read ends the arguments. -/
theorem readArguments_of_fails (led : Led Spells front entries)
    (fails : ∀ g depth, (Serialization.entry g depth).Fails rest) (found : Serialization) :
    Serialization.readArguments found (front ++ rest) = changed entries found := by
  obtain ⟨depth, more, -, goesOn⟩ := exists_readArguments_of_led led rest found
  rw [goesOn, readEntries_of_fails (fails _ depth)]

/-- An entry that goes on where a comma should stand is the last. -/
theorem readArguments_of_goesOn (led : Led Spells front entries) {entry : Entry}
    (reads : ∀ g depth, (Serialization.entry g depth).Reads entry.apply (trees ++ rest) rest)
    (goesOn : ¬ EndsEntry rest) (found : Serialization) :
    Serialization.readArguments found (front ++ (trees ++ rest)) =
      changed (entries ++ [entry]) found := by
  obtain ⟨depth, more, -, read⟩ := exists_readArguments_of_led led (trees ++ rest) found
  rw [read, readEntries_of_reads (reads _ depth) (not_endsEntry goesOn).2, changed, changed,
    List.foldl_append]
  rfl

end Entries

/-! ## Names that are no strings -/

/-- Whether a key asks for a name. -/
def KeyPath.IsNaming (key : KeyPath) : Prop :=
  key.isWord "rename" = true ∨ key.isWord "rename_all" = true

/-- A key that asks for a name and a name are an entry, whatever follows. -/
theorem NameGiven.exists_entry {key : KeyPath} (naming : key.IsNaming) {trees : List Tree}
    {name : Option String} (given : NameGiven trees name) :
    ∃ entry, Spells (key.trees ++ trees) entry ∧ ∀ g depth rest,
      (Serialization.entry g depth).Reads entry.apply (key.trees ++ trees ++ rest) rest := by
  obtain named | named := naming
  · exact ⟨.rename name, .rename named given, fun _ _ => given.reads_rename named⟩
  · exact ⟨.renameAll name, .renameAll named given, fun _ _ => given.reads_renameAll named⟩

/-- What gives no name after a key, up to the end of the arguments: a value that does not start with
a string, or a list in which the value after some key is not a string alone. -/
inductive Nameless : List Tree → Prop
  | alone (joint : Bool) {value : List Tree}
      (other : ∀ name rest, value ≠ .literal (.text name) :: rest) :
      Nameless (.punct '=' joint :: value)
  | listed {front value : List Tree} {names : List (Option String)}
      (led : Led DirectedName front names) (key : KeyPath) (joint : Bool)
      (other : ∀ name rest, value = .literal (.text name) :: rest → ¬ EndsEntry rest)
      (behind : List Tree) :
      Nameless (.group .paren (front ++ (key.trees ++ .punct '=' joint :: value)) :: behind)

/-- A list of names fails at a value that is not a string alone. -/
theorem fails_commaList_directedName {front value : List Tree} {names : List (Option String)}
    (led : Led DirectedName front names) (key : KeyPath) (joint : Bool)
    (other : ∀ name rest, value = .literal (.text name) :: rest → ¬ EndsEntry rest) :
    (commaList Serialization.directedName).Fails
      (front ++ (key.trees ++ .punct '=' joint :: value)) := by
  have items : Led (ReadsItem Serialization.directedName) front names :=
    led.imp fun _ _ _ directed => directed.readsItem
  have noColons : isPunct "::" (.punct '=' joint :: value) = false :=
    startsPunct_of_ne (by decide) [':'] joint value
  refine fails_commaList items fun found => ?_
  by_cases text : ∃ name rest, value = .literal (.text name) :: rest
  · obtain ⟨name, rest, rfl⟩ := text
    exact commaStep_fails found (key.trees_ne_nil _) (reads_directedName key joint name rest)
      (other name rest rfl)
  · have none : ∀ name rest, value ≠ .literal (.text name) :: rest :=
      fun name rest same => text ⟨name, rest, same⟩
    have fails : Serialization.directedName.Fails (key.trees ++ .punct '=' joint :: value) :=
      (key.reads noColons).bind_fails ((reads_punct rfl).bind_fails ((fails_text none).bind _))
    exact fails.commaStep found (key.trees_ne_nil _)

theorem Nameless.fails {trees : List Tree} (nameless : Nameless trees) :
    Serialization.serializedName.Fails trees := by
  cases nameless with
  | @alone joint value other =>
      have equals : isPunct "=" (.punct '=' joint :: value) = true := rfl
      refine (reads_ahead (isPunct "=") _).bind_fails ?_
      rw [equals]
      exact (reads_punct equals).bind_fails ((fails_text other).bind _)
  | @listed front value names led key joint other behind =>
      have nonempty : front ++ (key.trees ++ .punct '=' joint :: value) ≠ [] :=
        List.append_ne_nil_of_right_ne_nil front (key.trees_ne_nil _)
      exact (reads_ahead (isPunct "=") _).bind_fails
        ((fails_nested nonempty (fails_commaList_directedName led key joint other) behind).bind _)

theorem Nameless.noColons {trees : List Tree} (nameless : Nameless trees) :
    isPunct "::" trees = false := by
  cases nameless with
  | alone joint other => exact startsPunct_of_ne (by decide) [':'] joint _
  | listed led key joint other behind => exact startsPunct_group ':' [':'] .paren _ behind

/-- An entry that should give a name and does not cannot be read. -/
theorem Nameless.fails_entry {key : KeyPath} (naming : key.IsNaming) {trees : List Tree}
    (nameless : Nameless trees) (g : Grammar) (depth : Nat) :
    (Serialization.entry g depth).Fails (key.trees ++ trees) := by
  refine DocApi.Source.fails_entry nameless.noColons ?_
  obtain named | named := naming
  · rw [entryRest_rename named]
    exact nameless.fails.bind _
  · rw [entryRest_renameAll named]
    exact nameless.fails.bind _

/-! ## Attributes -/

/-- The attribute with other arguments. -/
def Attribute.withArguments (attr : Attribute) (trees : List Tree) : Attribute :=
  { attr with content := .arguments trees }

/-- What the entries of an attribute are. Attributes without arguments and attributes for something
else than serialization have none. -/
inductive Serializes : Attribute → List Entry → Prop
  | arguments {attr : Attribute} (named : attr.isNamed "serde" = true) {trees : List Tree}
      {entries : List Entry} (listed : Listed Spells trees entries) :
      Serializes (attr.withArguments trees) entries
  | bare {attr : Attribute} (bare : ∀ trees, attr.content ≠ .arguments trees) : Serializes attr []
  | other {attr : Attribute} (named : attr.isNamed "serde" = false) : Serializes attr []

theorem readAttribute_withArguments {attr : Attribute} (named : attr.isNamed "serde" = true)
    (found : Serialization) (trees : List Tree) :
    Serialization.readAttribute found (attr.withArguments trees) =
      Serialization.readArguments found trees := by
  have same : (attr.withArguments trees).isNamed "serde" = true := named
  rw [Serialization.readAttribute, Attribute.withArguments] at *
  simp only [same, if_true]

theorem Serializes.readAttribute {attr : Attribute} {entries : List Entry}
    (serializes : Serializes attr entries) (found : Serialization) :
    Serialization.readAttribute found attr = changed entries found := by
  cases serializes with
  | arguments named listed =>
      rw [readAttribute_withArguments named, readArguments_of_listed listed]
  | bare bare =>
      rw [Serialization.readAttribute]
      split
      · rename_i trees content
        exact absurd content (bare trees)
      · rfl
  | other named =>
      rw [Serialization.readAttribute]
      split
      · rw [named]
        rfl
      · rfl

/-- The attributes of a declaration change what their entries change. -/
theorem foldl_readAttribute {attributes : List Attribute} {entries : List (List Entry)}
    (serialize : List.Forall₂ Serializes attributes entries) (found : Serialization) :
    attributes.foldl Serialization.readAttribute found = changed entries.flatten found := by
  induction serialize generalizing found with
  | nil => rfl
  | cons first _ induction =>
      rw [List.foldl_cons, first.readAttribute, induction, List.flatten_cons, changed, changed,
        changed, List.foldl_append]

/-- The last value counts; what stands in front counts where no value follows. -/
theorem getLast?_filterMap_cons (value? : Entry → Option String) (entry : Entry)
    (entries : List Entry) (held : Option String) :
    ((entry :: entries).filterMap value?).getLast?.or held =
      (entries.filterMap value?).getLast?.or ((value? entry).or held) := by
  rw [List.filterMap_cons]
  cases value? entry with
  | none => rfl
  | some value =>
      dsimp only
      rw [List.getLast?_cons]
      cases (entries.filterMap value?).getLast? <;> rfl

/-- The last names count, and any entry that asks for the declaration to be left out. -/
theorem changed_eq (entries : List Entry) (found : Serialization) :
    changed entries found = {
      rename := (entries.filterMap Entry.name?).getLast?.or found.rename
      renameAll := (entries.filterMap Entry.rule?).getLast?.or found.renameAll
      skip := found.skip || decide (.skip ∈ entries)
      omitEmpty := found.omitEmpty || decide (.omitEmpty ∈ entries) } := by
  induction entries generalizing found with
  | nil => simp [changed]
  | cons entry entries induction =>
      have step : changed (entry :: entries) found = changed entries (entry.apply found) := rfl
      rw [step, induction, getLast?_filterMap_cons, getLast?_filterMap_cons]
      cases entry <;> simp [Entry.apply, Entry.name?, Entry.rule?]

/-- Entries without a meaning change nothing. -/
theorem changed_filter (entries : List Entry) (found : Serialization) :
    changed (entries.filter (· ≠ .unknown)) found = changed entries found := by
  induction entries generalizing found with
  | nil => rfl
  | cons entry entries induction =>
      by_cases unknown : entry = .unknown
      · subst unknown
        exact induction found
      · rw [List.filter_cons_of_pos (by simpa using unknown)]
        exact induction (entry.apply found)

/-- Attributes that change the same can stand for each other among others. -/
theorem ofAttributes_congr {attr other : Attribute}
    (same : ∀ found,
      Serialization.readAttribute found attr = Serialization.readAttribute found other)
    (before after : List Attribute) :
    Serialization.ofAttributes (before ++ attr :: after) =
      Serialization.ofAttributes (before ++ other :: after) := by
  rw [Serialization.ofAttributes, Serialization.ofAttributes, List.foldl_append, List.foldl_append,
    List.foldl_cons, List.foldl_cons, same]

/-- Attributes say what their entries say: the last name and the last rule that are given for
serializing count, and any entry that leaves the declaration out, always or for some values. So
entries without a meaning may be put in or taken out anywhere, and entries may be spread over more
attributes or fewer. An entry that should give a name and gives none ends its attribute as if it and
all that follows it there were missing; after a name that goes on where a comma should stand only
the rest of the attribute is missing. Other attributes count as a whole. -/
theorem serialization_of_entries :
    (∀ {attributes : List Attribute} {entries : List (List Entry)},
        List.Forall₂ Serializes attributes entries →
          let read := Serialization.ofAttributes attributes
          read.rename = (entries.flatten.filterMap Entry.name?).getLast? ∧
            read.renameAll = (entries.flatten.filterMap Entry.rule?).getLast? ∧
            (read.skip = true ↔ .skip ∈ entries.flatten) ∧
            (read.omitEmpty = true ↔ .omitEmpty ∈ entries.flatten)) ∧
      (∀ {attributes others : List Attribute} {entries otherEntries : List (List Entry)},
        List.Forall₂ Serializes attributes entries → List.Forall₂ Serializes others otherEntries →
          entries.flatten.filter (· ≠ .unknown) = otherEntries.flatten.filter (· ≠ .unknown) →
            Serialization.ofAttributes attributes = Serialization.ofAttributes others) ∧
      ∀ {attr : Attribute} {front : List Tree} {entries : List Entry} {key : KeyPath}
        (before after : List Attribute), attr.isNamed "serde" = true → Led Spells front entries →
          key.IsNaming →
            (∀ {trees kept : List Tree}, Nameless trees → Listed Spells kept entries →
              Serialization.ofAttributes
                  (before ++ attr.withArguments (front ++ (key.trees ++ trees)) :: after) =
                Serialization.ofAttributes (before ++ attr.withArguments kept :: after)) ∧
              ∀ {trees rest : List Tree} {name : Option String}, NameGiven trees name →
                ¬ EndsEntry rest →
                  Serialization.ofAttributes (before ++
                      attr.withArguments (front ++ (key.trees ++ trees ++ rest)) :: after) =
                    Serialization.ofAttributes
                      (before ++ attr.withArguments (front ++ (key.trees ++ trees)) :: after) := by
  refine ⟨fun serialize => ?_, fun first second same => ?_, ?_⟩
  · rw [Serialization.ofAttributes, foldl_readAttribute serialize, changed_eq]
    simp
  · rw [Serialization.ofAttributes, Serialization.ofAttributes, foldl_readAttribute first,
      foldl_readAttribute second, ← changed_filter, same, changed_filter]
  · intro attr front entries key before after named led naming
    refine ⟨fun nameless listed => ?_, fun given goesOn => ?_⟩
    · refine ofAttributes_congr (fun found => ?_) before after
      rw [readAttribute_withArguments named, readAttribute_withArguments named,
        readArguments_of_fails led (nameless.fails_entry naming), readArguments_of_listed listed]
    · obtain ⟨entry, spells, reads⟩ := given.exists_entry naming
      refine ofAttributes_congr (fun found => ?_) before after
      rw [readAttribute_withArguments named, readAttribute_withArguments named,
        readArguments_of_goesOn led (fun g depth => reads g depth _) goesOn,
        readArguments_of_listed (.opened led spells)]

/-! ## Attributes of a field -/

/-- An attribute for serialization. -/
def serdeAttribute : Attribute := ⟨false, some ⟨"serde", false, by decide⟩, .none⟩

/-- The key `rename`. -/
def renameKey : KeyPath := .ofWord "rename" (by decide)

/-- `word = "text"` -/
def textEntry (word : String) (nonempty : word ≠ "") (text : String) : List Tree :=
  (KeyPath.ofWord word nonempty).trees ++ [.punct '=' false, .literal (.text text)]

/-- `rename(serialize = "out", deserialize = "in")` -/
def directedName : List Tree :=
  renameKey.trees ++ [.group .paren (textEntry "serialize" (by decide) "out" ++
    .punct ',' false :: textEntry "deserialize" (by decide) "in")]

/-- `skip_serializing_if = "is_none", with = "codec",` -/
def conditionalEntries : List Tree :=
  textEntry "skip_serializing_if" (by decide) "is_none" ++
    .punct ',' false :: (textEntry "with" (by decide) "codec" ++ [.punct ',' false])

theorem spells_directedName : Spells directedName (.rename (some "out")) := by
  have written : DirectedName (textEntry "serialize" (by decide) "out") (some "out") :=
    .intro (.ofWord "serialize" (by decide)) false "out"
  have read : DirectedName (textEntry "deserialize" (by decide) "in") none :=
    .intro (.ofWord "deserialize" (by decide)) false "in"
  have names : Listed DirectedName (textEntry "serialize" (by decide) "out" ++
      .punct ',' false :: textEntry "deserialize" (by decide) "in") [some "out", none] :=
    .opened (.cons written false .nil) read
  exact .rename rfl (.listed (by simp) names)

theorem spells_conditionalEntry :
    Spells (textEntry "skip_serializing_if" (by decide) "is_none") .omitEmpty :=
  .omitEmpty rfl false "is_none"

theorem led_conditionalEntries : Led Spells conditionalEntries [.omitEmpty, .unknown] := by
  have unknown : Spells (textEntry "with" (by decide) "codec") .unknown :=
    .unknown (by decide) (.value false (isExpression_literal (.text "codec")))
  exact .cons spells_conditionalEntry false (.cons unknown false .nil)

/-- `= 5, skip` -/
def numberThenSkip : List Tree :=
  .punct '=' false :: .literal (.integer 5 "") :: .punct ',' false ::
    (KeyPath.ofWord "skip" (by decide)).trees

theorem nameless_numberThenSkip : Nameless numberThenSkip := .alone false (by simp)

/-- Between two attributes for the name stands one whose name is a number. It counts up to that
name, and the others count as a whole; without the key that has no meaning nothing changes. -/
theorem serialization_of_numbered_name :
    let named := serdeAttribute.withArguments directedName
    let numbered := serdeAttribute.withArguments
      (conditionalEntries ++ (renameKey.trees ++ numberThenSkip))
    let conditional := serdeAttribute.withArguments
      (textEntry "skip_serializing_if" (by decide) "is_none")
    let read := Serialization.ofAttributes [named, numbered, named]
    read = Serialization.ofAttributes [named, conditional, named] ∧ read.rename = some "out" ∧
      read.skip = false ∧ read.omitEmpty = true := by
  intro named numbered conditional read
  obtain ⟨said, same, ends⟩ := serialization_of_entries
  have renames : Serializes named [.rename (some "out")] :=
    .arguments rfl (.opened .nil spells_directedName)
  have omits : Serializes conditional [.omitEmpty] :=
    .arguments rfl (.opened .nil spells_conditionalEntry)
  have cut : Serializes (serdeAttribute.withArguments conditionalEntries) [.omitEmpty, .unknown] :=
    .arguments rfl (.closed led_conditionalEntries)
  have naming : renameKey.IsNaming := Or.inl rfl
  have stopped : read =
      Serialization.ofAttributes [named, serdeAttribute.withArguments conditionalEntries, named] :=
    (ends [named] [named] rfl led_conditionalEntries naming).1 nameless_numberThenSkip
      (.closed led_conditionalEntries)
  have shorter : read = Serialization.ofAttributes [named, conditional, named] :=
    stopped.trans (same (.cons renames (.cons cut (.cons renames .nil)))
      (.cons renames (.cons omits (.cons renames .nil))) (by decide))
  obtain ⟨rename, -, skip, omitted⟩ := said (.cons renames (.cons omits (.cons renames .nil)))
  rw [← shorter] at rename skip omitted
  refine ⟨shorter, rename.trans (by decide), ?_, omitted.2 (by decide)⟩
  exact Bool.eq_false_iff.2 fun skipped => absurd (skip.1 skipped) (by decide)

/-- The value `"a".len()`. -/
def textLength : List Tree :=
  [.literal (.text "a"), .punct '.' false, .ident ⟨"len", false, by decide⟩, .group .paren []]

theorem isExpression_textLength : IsExpression textLength := by
  refine isExpression_of_reads .other fun depth rest stray found ends => ?_
  cases ends with
  | nil => exact ⟨_, rfl, rfl⟩
  | comma joint rest => exact ⟨_, rfl, rfl⟩

/-- `rename = "a".len(), skip` -/
def calledName : List Tree :=
  renameKey.trees ++ .punct '=' false :: (textLength ++
    .punct ',' false :: (KeyPath.ofWord "skip" (by decide)).trees)

/-- A name that goes on with a call counts, although its value is an expression and no string. -/
theorem serialization_of_called_name :
    IsExpression textLength ∧ (∀ name, textLength ≠ [.literal (.text name)]) ∧
      Serialization.ofAttributes [serdeAttribute.withArguments calledName] ≠
        Serialization.ofAttributes [serdeAttribute.withArguments []] := by
  refine ⟨isExpression_textLength, by simp [textLength], ?_⟩
  let behind : List Tree :=
    textLength.tail ++ .punct ',' false :: (KeyPath.ofWord "skip" (by decide)).trees
  have shape : calledName =
      [] ++ (renameKey.trees ++ [.punct '=' false, .literal (.text "a")] ++ behind) := rfl
  have named : renameKey.isWord "rename" = true := rfl
  have given : NameGiven [.punct '=' false, .literal (.text "a")] (some "a") := .alone false "a"
  have goesOn : ¬ EndsEntry behind := by
    change ¬ EndsEntry (.punct '.' false :: _)
    exact nofun
  have counts : Serialization.readArguments {} calledName = { rename := some "a" } := by
    rw [shape]
    exact readArguments_of_goesOn .nil (fun g depth => given.reads_rename named behind) goesOn {}
  have serde : serdeAttribute.isNamed "serde" = true := rfl
  have read := (readAttribute_withArguments serde {} calledName).trans counts
  rw [Serialization.ofAttributes, List.foldl_cons, List.foldl_nil, read]
  decide

end DocApi.Source
