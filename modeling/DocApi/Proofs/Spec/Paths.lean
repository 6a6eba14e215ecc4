import DocApi.Proofs.Keyed
import DocApi.Spec.Build
import Mathlib.Data.List.Induction

/-!
# The paths of a document

A path comes where its first operation stands, and what it answers to a method is the last
operation with that path and method. Operations with another path or another method have no say in
it, and operations without a method have none at all.
-/

namespace DocApi

/-- Whether a draft is for the given path and method. -/
def OperationDraft.isAt (path : String) (method : Method) (draft : OperationDraft) : Bool :=
  draft.path = path ∧ draft.method = some method

/-- The paths of the drafts that have a method, in order. -/
def OperationDraft.boundPaths (drafts : List OperationDraft) : List String :=
  (drafts.filter fun draft => draft.method.isSome).map OperationDraft.path

namespace Spec

/-- The operation that paths hold for a path and a method. -/
def operationAt (paths : Keyed PathItem) (path : String) (method : Method) : Option Operation :=
  (Keyed.at? paths path).bind fun item => item.operation method

/-- What a path holds is known by its operations. -/
theorem at?_eq_of_operationAt {first second : Keyed PathItem}
    (sameKeys : ∀ path, path ∈ Keyed.keys first ↔ path ∈ Keyed.keys second)
    (same : ∀ path method, operationAt first path method = operationAt second path method)
    (path : String) : Keyed.at? first path = Keyed.at? second path := by
  have none_iff : Keyed.at? first path = none ↔ Keyed.at? second path = none := by
    rw [Keyed.at?_eq_none_iff, Keyed.at?_eq_none_iff, sameKeys]
  cases found : Keyed.at? first path with
  | none => exact (none_iff.1 found).symm
  | some item =>
      cases found' : Keyed.at? second path with
      | none => rw [none_iff.2 found'] at found; cases found
      | some item' =>
          have equal : item = item' := by
            refine PathItem.eq_of_operation fun method => ?_
            simpa [operationAt, found, found'] using same path method
          rw [equal]

/-! ## One operation -/

theorem keys_addPath (paths : Keyed PathItem) (draft : OperationDraft) :
    Keyed.keys (addPath paths draft) =
      if draft.method.isSome ∧ draft.path ∉ Keyed.keys paths then
        Keyed.keys paths ++ [draft.path]
      else Keyed.keys paths := by
  cases bound : draft.method with
  | none => simp [addPath, bound]
  | some method =>
      by_cases member : draft.path ∈ Keyed.keys paths <;>
        simp [addPath, bound, Keyed.keys_put, member]

theorem nodup_keys_addPath {paths : Keyed PathItem} (draft : OperationDraft)
    (distinct : (Keyed.keys paths).Nodup) : (Keyed.keys (addPath paths draft)).Nodup := by
  cases bound : draft.method with
  | none => simpa [addPath, bound] using distinct
  | some method =>
      simp only [addPath, bound]
      exact Keyed.nodup_keys_put _ _ distinct

/-- The item of a path that is not there answers nothing, like the empty item. -/
theorem operation_getD (paths : Keyed PathItem) (path : String) (method : Method) :
    ((Keyed.at? paths path).getD {}).operation method = operationAt paths path method := by
  rw [operationAt]
  cases Keyed.at? paths path with
  | none => cases method <;> rfl
  | some item => rfl

/-- A draft sets the operation of its own path and method and no other. -/
theorem operationAt_addPath (paths : Keyed PathItem) (draft : OperationDraft) (path : String)
    (method : Method) :
    operationAt (addPath paths draft) path method =
      if draft.isAt path method then some draft.toOperation else operationAt paths path method := by
  cases bound : draft.method with
  | none => simp [addPath, bound, OperationDraft.isAt]
  | some set =>
      by_cases elsewhere : path = draft.path
      · subst elsewhere
        rw [← operation_getD paths]
        simp [addPath, bound, operationAt, Keyed.at?_put, PathItem.operation_setOperation,
          OperationDraft.isAt, eq_comm]
      · have different : draft.path ≠ path := fun equality => elsewhere equality.symm
        simp [addPath, bound, operationAt, Keyed.at?_put, elsewhere, different,
          OperationDraft.isAt]

/-! ## All operations -/

theorem buildPaths_concat (drafts : List OperationDraft) (draft : OperationDraft) :
    buildPaths (drafts ++ [draft]) = addPath (buildPaths drafts) draft := by
  simp [buildPaths]

/-- Paths stand in the order of their first bound drafts. -/
theorem keys_buildPaths (drafts : List OperationDraft) :
    Keyed.keys (buildPaths drafts) = (OperationDraft.boundPaths drafts).eraseDups := by
  induction drafts using List.reverseRecOn with
  | nil => rfl
  | append_singleton drafts draft induction =>
      rw [buildPaths_concat, keys_addPath, induction]
      by_cases bound : draft.method.isSome = true
      · have more : OperationDraft.boundPaths (drafts ++ [draft]) =
            OperationDraft.boundPaths drafts ++ [draft.path] := by
          simp [OperationDraft.boundPaths, bound]
        rw [more, List.eraseDups_append]
        by_cases member : draft.path ∈ OperationDraft.boundPaths drafts <;>
          simp [bound, member, List.removeAll, List.eraseDups_cons]
      · have same : OperationDraft.boundPaths (drafts ++ [draft]) =
            OperationDraft.boundPaths drafts := by
          simp [OperationDraft.boundPaths, bound]
        simp [bound, same]

theorem nodup_keys_buildPaths (drafts : List OperationDraft) :
    (Keyed.keys (buildPaths drafts)).Nodup := by
  induction drafts using List.reverseRecOn with
  | nil => exact List.nodup_nil
  | append_singleton drafts draft induction =>
      rw [buildPaths_concat]
      exact nodup_keys_addPath draft induction

/-- The last draft for a path and method counts. -/
theorem operationAt_buildPaths (drafts : List OperationDraft) (path : String) (method : Method) :
    operationAt (buildPaths drafts) path method =
      ((drafts.filter (OperationDraft.isAt path method)).getLast?).map
        OperationDraft.toOperation := by
  induction drafts using List.reverseRecOn with
  | nil => rfl
  | append_singleton drafts draft induction =>
      rw [buildPaths_concat, operationAt_addPath, induction, List.filter_append]
      by_cases here : draft.isAt path method = true <;> simp [here]

/-- The paths of a built document are the distinct paths of the drafts with a method, in the order
of their first occurrence. For every path and method the document holds the operation of the last
draft with both, and none when there is no such draft; the other drafts could as well be left
out. -/
theorem build_paths_last_wins (spec : Spec) :
    (Keyed.keys spec.build.paths).Nodup ∧
    Keyed.keys spec.build.paths =
      ((spec.operations.filter fun draft => draft.method.isSome).map
        OperationDraft.path).eraseDups ∧
    ∀ (path : String) (method : Method),
      operationAt spec.build.paths path method =
        ((spec.operations.filter fun draft =>
          draft.path = path ∧ draft.method = some method).getLast?).map
            OperationDraft.toOperation ∧
      operationAt spec.build.paths path method =
        operationAt
          ({ spec with
             operations := spec.operations.filter fun draft =>
               draft.path = path ∧ draft.method = some method }).build.paths path method := by
  refine ⟨nodup_keys_buildPaths spec.operations, keys_buildPaths spec.operations, ?_⟩
  intro path method
  have last := operationAt_buildPaths spec.operations path method
  have alone := operationAt_buildPaths
    (spec.operations.filter (OperationDraft.isAt path method)) path method
  rw [List.filter_filter] at alone
  simp only [Bool.and_self] at alone
  exact ⟨last, last.trans alone.symm⟩

/-! ## A path that is served twice -/

/-- What is said of one operation: its method, its path and its summary. -/
def draftAt (method : Option Method) (path summary : String) : OperationDraft :=
  { method, path, summary }

/-- Two operations for the method `get` of `/pets`, and three others in between. -/
def petsDrafts : List OperationDraft :=
  [draftAt (some .get) "/pets" "First", draftAt (some .put) "/shop" "Stock",
    draftAt none "/cats" "Lost", draftAt (some .post) "/pets" "Add",
    draftAt (some .get) "/pets" "Last"]

/-- The second operation for `get` counts, in the place of the first; what has no method is lost. -/
theorem build_paths_of_petsDrafts :
    let paths := ({ operations := petsDrafts } : Spec).build.paths
    Keyed.keys paths = ["/pets", "/shop"] ∧
      operationAt paths "/pets" .get = some { summary := some "Last" } ∧
      operationAt paths "/pets" .post = some { summary := some "Add" } ∧
      operationAt paths "/shop" .get = none := by
  intro paths
  obtain ⟨-, order, served⟩ := build_paths_last_wins { operations := petsDrafts }
  refine ⟨?_, ?_, ?_, ?_⟩
  · rw [order]
    decide
  · rw [(served "/pets" .get).1]
    rfl
  · rw [(served "/pets" .post).1]
    rfl
  · rw [(served "/shop" .get).1]
    rfl

end Spec
end DocApi
