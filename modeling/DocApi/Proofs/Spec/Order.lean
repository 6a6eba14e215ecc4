import DocApi.Proofs.Annotation.Pieces
import DocApi.Proofs.Spec.Components
import DocApi.Proofs.Spec.Paths

/-!
# The order of files

Files that speak of operations and models only, and never of the same path and method or of the
same model twice, can be walked in any order: the document has the same paths and schemas, and only
the order in which it lists them follows the order of the files.
-/

namespace DocApi

/-- Two maps are the same, the order of their keys apart. -/
structure Keyed.SameEntries {α : Type} (first second : Keyed α) : Prop where
  /-- No key of the first map is repeated. -/
  distinct : (Keyed.keys first).Nodup
  /-- No key of the second map is repeated. -/
  distinct' : (Keyed.keys second).Nodup
  keys : ∀ key, key ∈ Keyed.keys first ↔ key ∈ Keyed.keys second
  values : ∀ key, Keyed.at? first key = Keyed.at? second key

/-- The order of entries does not matter when no key is repeated. -/
theorem Keyed.sameEntries_of_perm {α : Type} {first second : Keyed α}
    (distinct : (Keyed.keys first).Nodup) (reordered : first.Perm second) :
    Keyed.SameEntries first second := by
  have sameKeys : (Keyed.keys first).Perm (Keyed.keys second) := reordered.map Prod.fst
  have distinct' := sameKeys.nodup_iff.1 distinct
  exact ⟨distinct, distinct', fun key => sameKeys.mem_iff, Keyed.at?_of_perm distinct reordered⟩

/-- Files whose declarations cannot get into each other's way. -/
structure ConflictFree (files : List Declarations) : Prop where
  /-- No doc comment speaks of the interface as a whole. -/
  silent : ∀ file ∈ files, ∀ block ∈ file.docBlocks, ∀ note ∈ annotations block,
    note.isGlobal = false
  /-- No two operations have the same path and method. -/
  routes : (files.flatMap Declarations.operations).Pairwise fun first second =>
    ¬(first.path = second.path ∧ first.method = second.method)
  /-- No two models have the same name. -/
  names : (Keyed.keys (files.flatMap Declarations.models)).Nodup

theorem ConflictFree.perm {files shuffled : List Declarations} (free : ConflictFree files)
    (reordered : files.Perm shuffled) : ConflictFree shuffled where
  silent file member := free.silent file (reordered.mem_iff.2 member)
  routes := by
    refine (List.Perm.pairwise_iff ?_ (reordered.flatMap_right _)).1 free.routes
    intro first second apart same
    exact apart ⟨same.1.symm, same.2.symm⟩
  names := ((reordered.flatMap_right _).map Prod.fst).nodup_iff.1 free.names

namespace Spec

/-- The operations and models of files without conflicts are taken as they are. -/
theorem foldl_walk_of_conflictFree {files : List Declarations} (free : ConflictFree files) :
    files.foldl walk {} =
      { operations := files.flatMap Declarations.operations
        models := files.flatMap Declarations.models } := by
  have silent : files.flatMap Declarations.globalNotes = [] := by
    refine List.flatMap_eq_nil_iff.2 fun file member => ?_
    refine List.flatMap_eq_nil_iff.2 fun block inFile => ?_
    refine List.filter_eq_nil_iff.2 fun note inBlock => ?_
    simp [free.silent file member block inFile note inBlock]
  rw [foldl_walk_eq, silent, fileAll_nil_left, Keyed.firstEntries_of_nodup free.names]
  rfl

/-- The schemas of files without conflicts are those of their models. -/
theorem componentSchemas_of_conflictFree {files : List Declarations} (free : ConflictFree files) :
    (files.foldl walk {}).build.componentSchemas =
      Keyed.mapValues NamedSchema.schema (files.flatMap Declarations.models) := by
  rw [build_componentSchemas, mergedSchemas_eq, foldl_walk_of_conflictFree free, fileAll_nil_left,
    Keyed.firstEntries_of_nodup free.names]

/-- At most one of the operations is for a given path and method, so that it does not matter which
one is the last. -/
theorem getLast?_isAt_of_perm {drafts shuffled : List OperationDraft}
    (routes : drafts.Pairwise fun first second =>
      ¬(first.path = second.path ∧ first.method = second.method))
    (reordered : drafts.Perm shuffled) (path : String) (method : Method) :
    (drafts.filter (OperationDraft.isAt path method)).getLast? =
      (shuffled.filter (OperationDraft.isAt path method)).getLast? := by
  have filtered := reordered.filter (OperationDraft.isAt path method)
  have apart := routes.filter (OperationDraft.isAt path method)
  have here : ∀ draft ∈ drafts.filter (OperationDraft.isAt path method),
      draft.path = path ∧ draft.method = some method := by
    intro draft member
    simpa [OperationDraft.isAt] using (List.mem_filter.1 member).2
  rcases listed : drafts.filter (OperationDraft.isAt path method) with
    _ | ⟨first, _ | ⟨second, rest⟩⟩
  · rw [listed] at filtered
    rw [filtered.nil_eq]
  · rw [listed] at filtered
    rw [List.perm_singleton.1 filtered.symm]
  · rw [listed] at apart here
    have one := here first (by simp)
    have other := here second (by simp)
    exact absurd ⟨one.1.trans other.1.symm, one.2.trans other.2.symm⟩
      (List.rel_of_pairwise_cons apart List.mem_cons_self)

/-- The paths of operations without conflicts do not depend on the order of the operations. -/
theorem buildPaths_of_perm {drafts shuffled : List OperationDraft}
    (routes : drafts.Pairwise fun first second =>
      ¬(first.path = second.path ∧ first.method = second.method))
    (reordered : drafts.Perm shuffled) :
    Keyed.SameEntries (buildPaths drafts) (buildPaths shuffled) := by
  have sameKeys : ∀ path, path ∈ Keyed.keys (buildPaths drafts) ↔
      path ∈ Keyed.keys (buildPaths shuffled) := by
    intro path
    have bound : (OperationDraft.boundPaths drafts).Perm (OperationDraft.boundPaths shuffled) :=
      (reordered.filter _).map _
    rw [keys_buildPaths, keys_buildPaths, List.mem_eraseDups, List.mem_eraseDups, bound.mem_iff]
  refine ⟨nodup_keys_buildPaths drafts, nodup_keys_buildPaths shuffled, sameKeys, ?_⟩
  refine at?_eq_of_operationAt sameKeys fun path method => ?_
  rw [operationAt_buildPaths, operationAt_buildPaths, getLast?_isAt_of_perm routes reordered]

/-- The documents of files without conflicts have the same paths and the same schemas, in whatever
order the files are walked. -/
theorem build_of_reordered_files {files shuffled : List Declarations} (free : ConflictFree files)
    (reordered : files.Perm shuffled) :
    Keyed.SameEntries (files.foldl walk {}).build.paths (shuffled.foldl walk {}).build.paths ∧
      Keyed.SameEntries (files.foldl walk {}).build.componentSchemas
        (shuffled.foldl walk {}).build.componentSchemas := by
  have free' := free.perm reordered
  constructor
  · rw [foldl_walk_of_conflictFree free, foldl_walk_of_conflictFree free']
    exact buildPaths_of_perm free.routes (reordered.flatMap_right _)
  · rw [componentSchemas_of_conflictFree free, componentSchemas_of_conflictFree free']
    refine Keyed.sameEntries_of_perm ?_ ((reordered.flatMap_right _).map _)
    rw [Keyed.keys_mapValues]
    exact free.names

/-! ## Two operations of one path -/

/-- What a line with a method and the path `/pets` says. -/
def petsRoute (method : Method) : RouteLine :=
  { method, path := "/pets", operationId := "", summary := "", tags := [], deprecated := false }

theorem annotations_petsRoute {doc word : String} {method : Method}
    (line : lines doc.toList = [writeLine word [.bare "/pets"]]) (lower : asciiLower word = word)
    (known : Verb.ofWord? word = some (.route method)) :
    annotations doc = [.route (petsRoute method)] := by
  have closed : ClosedWord "/pets" :=
    closedWord_of_lexesAlone ⟨by with_unfolding_all rfl, by decide⟩
  have fits : ∀ piece ∈ [Piece.bare "/pets"], piece.Fits := by
    intro piece member
    obtain rfl := List.mem_singleton.1 member
    exact closed
  have token : Piece.token (.bare "/pets") = .word "/pets" := by decide
  have unlike : eqIgnoringCase "/pets" "deprecated" = false := by decide
  have read : (LineTokens.ofPieces [.bare "/pets"]).read word (.route method) =
      .ok (.route (petsRoute method)) := by
    simp [LineTokens.ofPieces, token, LineTokens.ofTokens, LineTokens.read, LineTokens.route,
      takeSwitch, takeFirst, isSwitch, unlike, LineTokens.requireBare, Token.isBare]
    rfl
  have parsed : lineAnnotation? (writeLine word [.bare "/pets"]) =
      some (.route (petsRoute method)) := by
    rw [lineAnnotation?, parseLine_writeLine lower known fits, read]
    rfl
  rw [annotations, line, List.filterMap_cons_some parsed, List.filterMap_nil]

/-- A file with one operation, which is described by `doc`, and one model without fields. -/
def routeFile (doc model : String) : Declarations where
  docBlocks := [doc, "!model"]
  routines := [⟨"handler", doc, false⟩]
  records := [⟨model, "!model", {}, some []⟩]

theorem operations_routeFile {doc : String} {method : Method}
    (read : annotations doc = [.route (petsRoute method)]) (marked : '!' ∈ doc.toList)
    (model : String) :
    (routeFile doc model).operations =
      [{ method := some method, path := "/pets", description := prose doc }] := by
  simp [Declarations.operations, routeFile, Routine.routedOperation?, OperationDraft.ofRoutine?,
    read, marked, OperationDraft.apply, petsRoute, OperationDraft.isRouted, Option.filter]

theorem keys_models_routeFile (doc model : String) :
    Keyed.keys (routeFile doc model).models = [model] := by
  have read : annotations "!model" = [.model ""] := by with_unfolding_all rfl
  simp [Declarations.models, routeFile, RecordDecl.markedModel?, read, isModel, RecordDecl.model?,
    NamedSchema.entry, Keyed.keys]

/-- Two files that serve one path with different methods and declare different models give the same
paths and schemas in either order. -/
theorem build_of_swapped_files :
    ConflictFree [routeFile "!get /pets" "Pet", routeFile "!put /pets" "Shop"] ∧
      Keyed.SameEntries
        ([routeFile "!get /pets" "Pet", routeFile "!put /pets" "Shop"].foldl walk {}).build.paths
        ([routeFile "!put /pets" "Shop", routeFile "!get /pets" "Pet"].foldl walk {}).build.paths ∧
      Keyed.SameEntries
        ([routeFile "!get /pets" "Pet", routeFile "!put /pets" "Shop"].foldl walk
          {}).build.componentSchemas
        ([routeFile "!put /pets" "Shop", routeFile "!get /pets" "Pet"].foldl walk
          {}).build.componentSchemas := by
  have model : annotations "!model" = [.model ""] := by with_unfolding_all rfl
  have get : annotations "!get /pets" = [.route (petsRoute .get)] :=
    annotations_petsRoute (show _ = [writeLine "get" _] by decide) (by decide) (by decide)
  have put : annotations "!put /pets" = [.route (petsRoute .put)] :=
    annotations_petsRoute (show _ = [writeLine "put" _] by decide) (by decide) (by decide)
  have free : ConflictFree [routeFile "!get /pets" "Pet", routeFile "!put /pets" "Shop"] := by
    refine ⟨?_, ?_, ?_⟩
    · simp [routeFile, get, put, model, Annotation.isGlobal]
    · simp only [List.flatMap_cons, List.flatMap_nil, operations_routeFile get (by decide),
        operations_routeFile put (by decide)]
      simp
    · simp [keys_models_routeFile]
  exact ⟨free, build_of_reordered_files free (.swap _ _ _)⟩

end Spec
end DocApi
