import DocApi.Proofs.Edits
import DocApi.Proofs.Spec.Components
import DocApi.Proofs.Spec.Paths
import DocApi.Proofs.Spec.SecuritySchemes

/-!
# Walking files again

A second walk over the same files finds every name taken. What is overwritten by later lines ends
with the same line, what keeps its first value keeps it, and a scope that the first walk dropped
because its scheme was not declared yet is dropped by the declaration that follows it. Only the
lists grow: servers, tags and links, and the operations, of which the document takes the last for
each path and method.
-/

namespace DocApi

/-! ## Security schemes -/

namespace SecurityNote

/-- What a line does to the schemes, as an edit. -/
def edit : SecurityNote → Keyed.Edit SecurityScheme
  | .declares line => .filing line.name (.ofLine line)
  | .grants line => .adjusting line.scheme (·.addScope line.name line.description)

theorem foldl_apply_eq_edited (schemes : Keyed SecurityScheme) (notes : List SecurityNote) :
    notes.foldl apply schemes = Keyed.edited schemes (notes.map edit) := by
  rw [Keyed.edited, List.foldl_map]
  congr 1
  funext schemes note
  cases note with
  | declares line => exact (Keyed.Edit.apply_filing _ _ _).symm
  | grants line => exact (Keyed.Edit.apply_adjusting _ _ _).symm

theorem overwrites_edit (note : SecurityNote) : note.edit.Overwrites := by
  cases note with
  | declares line => exact Keyed.Edit.overwrites_filing _ _
  | grants line => exact Keyed.Edit.overwrites_adjusting _ _

/-- While a name is not declared again, its scheme gains the scopes of the lines for it. -/
theorem valueAfter_of_undeclared {notes : List SecurityNote} {name : String}
    (others : ∀ note ∈ notes, note.declaredName? ≠ some name) (scheme : SecurityScheme) :
    Keyed.valueAfter (notes.map edit) name scheme =
      scheme.mapFlows fun flow =>
        { flow with scopes := Keyed.putAll flow.scopes (notes.filterMap (scopeOf? name)) } := by
  rw [← SecurityScheme.foldl_addScope]
  induction notes generalizing scheme with
  | nil => rfl
  | cons note notes induction =>
      have later := induction fun next member => others next (List.mem_cons_of_mem note member)
      have other := others note List.mem_cons_self
      rw [List.map_cons, Keyed.valueAfter, List.foldl_cons, ← Keyed.valueAfter, later]
      cases note with
      | declares line =>
          have different : line.name ≠ name := fun equality => other (by rw [← equality]; rfl)
          have nothing : (SecurityNote.declares line).scopeOf? name = none := rfl
          simp [edit, Keyed.Edit.filing, different, List.filterMap_cons_none nothing]
      | grants line =>
          by_cases same : line.scheme = name <;>
            simp [edit, Keyed.Edit.adjusting, scopeOf?, same]

/-- The scheme of a declared name is what the lines from its declaration on say, whatever it was
before; the scheme of another name already has all the scopes it is given. -/
theorem settles_edits (notes : List SecurityNote) : Keyed.Settles (notes.map edit) := by
  intro name scheme
  by_cases declared : ∃ line, .declares line ∈ notes ∧ line.name = name
  · obtain ⟨line, member, rfl⟩ := declared
    obtain ⟨before, after, rfl⟩ := List.append_of_mem member
    have whole : ∀ old, Keyed.valueAfter ((before ++ .declares line :: after).map edit) line.name
        old = Keyed.valueAfter (after.map edit) line.name (.ofLine line) := by
      intro old
      rw [List.map_append, List.map_cons]
      exact Keyed.valueAfter_of_overwrites (Keyed.Edit.overwrites_filing _ _) rfl old
    rw [whole, whole]
  · have others : ∀ note ∈ notes, note.declaredName? ≠ some name := by
      intro note member named
      cases note with
      | declares line => exact declared ⟨line, member, Option.some.inj named⟩
      | grants line => cases named
    simp only [valueAfter_of_undeclared others, SecurityScheme.mapFlows_mapFlows]
    congr 1
    funext flow
    simp only [Function.comp_apply, Keyed.putAll_putAll]

/-- Lines about security schemes change nothing the second time. -/
theorem foldl_apply_twice (schemes : Keyed SecurityScheme) (notes : List SecurityNote) :
    notes.foldl apply (notes.foldl apply schemes) = notes.foldl apply schemes := by
  simp only [foldl_apply_eq_edited]
  refine Keyed.edited_edited ?_ (settles_edits notes) schemes
  intro edit member
  obtain ⟨note, _, rfl⟩ := List.mem_map.1 member
  exact note.overwrites_edit

end SecurityNote

namespace Spec

/-! ## Schemas -/

/-- Filing the same schemas again changes nothing. -/
theorem fileAll_fileAll (start entries : Keyed NamedSchema) :
    fileAll (fileAll start entries) entries = fileAll start entries := by
  rw [fileAll_eq (fileAll start entries)]
  refine List.append_right_eq_self.2 (List.filter_eq_nil_iff.2 fun entry first => ?_)
  have taken : entry.1 ∈ Keyed.keys (fileAll start entries) := by
    rw [fileAll_eq, Keyed.keys_append, List.mem_append]
    by_cases held : entry.1 ∈ Keyed.keys start
    · exact Or.inl held
    · refine Or.inr (Keyed.mem_keys_of_mem (List.mem_filter.2 ⟨first, ?_⟩))
      simpa using held
  simpa using taken

/-! ## Paths -/

/-- Operations that are given twice in a row give the same paths as once. -/
theorem buildPaths_append_self (before drafts : List OperationDraft) :
    buildPaths (before ++ drafts ++ drafts) = buildPaths (before ++ drafts) := by
  have sameKeys : Keyed.keys (buildPaths (before ++ drafts ++ drafts)) =
      Keyed.keys (buildPaths (before ++ drafts)) := by
    have bound : ∀ left right, OperationDraft.boundPaths (left ++ right) =
        OperationDraft.boundPaths left ++ OperationDraft.boundPaths right := by
      intro left right
      simp [OperationDraft.boundPaths]
    rw [keys_buildPaths, keys_buildPaths, bound (before ++ drafts), List.eraseDups_append, bound]
    have nothing : (OperationDraft.boundPaths drafts).removeAll
        (OperationDraft.boundPaths before ++ OperationDraft.boundPaths drafts) = [] := by
      simp +contextual [List.removeAll]
    simp [nothing]
  refine Keyed.eq_of_at? sameKeys (nodup_keys_buildPaths _)
    (at?_eq_of_operationAt (fun path => by rw [sameKeys]) fun path method => ?_)
  rw [operationAt_buildPaths, operationAt_buildPaths, List.filter_append, List.filter_append,
    List.getLast?_append, List.getLast?_append]
  cases (drafts.filter (OperationDraft.isAt path method)).getLast? <;> simp

/-! ## Registers -/

/-- What every line overwrites as a whole is the same after a second walk. -/
theorem register_rewalk {β : Type} (read : Spec → β) (value? : Annotation → Option β)
    (kept : ∀ spec operations models, read (spec.withDeclared operations models) = read spec)
    (written : ∀ spec note, read (spec.apply note) = Keyed.overwrite value? (read spec) note)
    (spec : Spec) (files : List Declarations) :
    read (files.foldl walk (files.foldl walk spec)) = read (files.foldl walk spec) := by
  have run : ∀ spec, read (files.foldl walk spec) =
      (files.flatMap Declarations.globalNotes).foldl (Keyed.overwrite value?) (read spec) := by
    intro spec
    rw [foldl_walk_eq, kept]
    exact (List.foldl_hom read fun spec note => (written spec note).symm).symm
  rw [run, run, Keyed.foldl_overwrite_twice]

theorem version_rewalk (spec : Spec) (files : List Declarations) :
    (files.foldl walk (files.foldl walk spec)).version = (files.foldl walk spec).version :=
  register_rewalk version
    (fun note => match note with
      | .api version => some version
      | _ => none)
    (fun _ _ _ => rfl) (fun _ note => by cases note <;> rfl) spec files

theorem externalDocs_rewalk (spec : Spec) (files : List Declarations) :
    (files.foldl walk (files.foldl walk spec)).externalDocs =
      (files.foldl walk spec).externalDocs :=
  register_rewalk externalDocs
    (fun note => match note with
      | .docs line => some (some ⟨line.url, nonEmptyText? line.description⟩)
      | _ => none)
    (fun _ _ _ => rfl) (fun _ note => by cases note <;> rfl) spec files

/-- General information consists of four registers: title, version and description come from one
line, and terms, contact and license from one line each. -/
theorem info_rewalk (spec : Spec) (files : List Declarations) :
    (files.foldl walk (files.foldl walk spec)).info = (files.foldl walk spec).info := by
  have heading := register_rewalk
    (fun spec => (spec.info.title, spec.info.version, spec.info.description))
    (fun note => match note with
      | .info line => some (line.title, line.version, nonEmptyText? line.description)
      | _ => none)
    (fun _ _ _ => rfl) (fun _ note => by cases note <;> rfl) spec files
  have terms := register_rewalk (fun spec => spec.info.termsOfService)
    (fun note => match note with
      | .terms url => some (some url)
      | _ => none)
    (fun _ _ _ => rfl) (fun _ note => by cases note <;> rfl) spec files
  have contact := register_rewalk (fun spec => spec.info.contact)
    (fun note => match note with
      | .contact line => some (some {
          name := nonEmptyText? line.name
          email := nonEmptyText? line.email
          url := nonEmptyText? line.url })
      | _ => none)
    (fun _ _ _ => rfl) (fun _ note => by cases note <;> rfl) spec files
  have license := register_rewalk (fun spec => spec.info.license)
    (fun note => match note with
      | .license line => some (some ⟨line.name, nonEmptyText? line.url⟩)
      | _ => none)
    (fun _ _ _ => rfl) (fun _ note => by cases note <;> rfl) spec files
  simp only [Prod.mk.injEq] at heading
  obtain ⟨title, version, description⟩ := heading
  generalize (files.foldl walk (files.foldl walk spec)).info = again at *
  generalize (files.foldl walk spec).info = before at *
  cases again
  cases before
  simp_all

/-! ## Documents -/

/-- The list of links only goes into the description. -/
theorem buildInfo_eq (spec : Spec) :
    { spec.buildInfo with description := none } = { spec.info with description := none } := by
  simp only [buildInfo]
  split <;> rfl

/-- Walking the same files a second time, from any specification, changes nothing in the document
but its servers, its tags and the list of links. Version, title and all other general information,
the paths and the components are the same, in the same order. -/
theorem rewalk_changes_lists_only (spec : Spec) (files : List Declarations) :
    let once := files.foldl walk spec
    let twice := files.foldl walk once
    twice.build.openapi = once.build.openapi ∧
      twice.build.info.title = once.build.info.title ∧
      twice.build.info.version = once.build.info.version ∧
      twice.build.info.termsOfService = once.build.info.termsOfService ∧
      twice.build.info.contact = once.build.info.contact ∧
      twice.build.info.license = once.build.info.license ∧
      twice.build.externalDocs = once.build.externalDocs ∧
      twice.build.paths = once.build.paths ∧
      twice.build.components = once.build.components ∧
      twice.build =
        ({ once with
           servers := twice.servers
           tags := twice.tags
           links := twice.links }).build := by
  intro once twice
  have version : twice.version = once.version := version_rewalk spec files
  have info : twice.info = once.info := info_rewalk spec files
  have docs : twice.externalDocs = once.externalDocs := externalDocs_rewalk spec files
  have paths : buildPaths twice.operations = buildPaths once.operations := by
    simp only [twice, once, foldl_walk_eq, withDeclared]
    exact buildPaths_append_self _ _
  have schemas : twice.schemas = once.schemas := by
    simp only [twice, once, foldl_walk_schemas, fileAll_fileAll]
  have models : twice.models = once.models := by
    simp only [twice, once, foldl_walk_models, fileAll_fileAll]
  have schemes : twice.securitySchemes = once.securitySchemes := by
    simp only [twice, once, foldl_walk_securitySchemes, SecurityNote.foldl_apply_twice]
  have components : twice.buildComponents = once.buildComponents := by
    simp only [buildComponents, mergedSchemas, schemas, models, schemes]
    rfl
  have general : { twice.build.info with description := none } =
      { once.build.info with description := none } := by
    change { twice.buildInfo with description := none } =
      { once.buildInfo with description := none }
    rw [buildInfo_eq, buildInfo_eq, info]
  have whole : twice.build =
      ({ once with
         servers := twice.servers
         tags := twice.tags
         links := twice.links }).build := by
    simp only [build, Document.mk.injEq]
    refine ⟨version, ?_, trivial, trivial, paths, components, docs⟩
    simp only [buildInfo, info]
  rw [Info.mk.injEq] at general
  obtain ⟨title, number, -, terms, contact, license⟩ := general
  exact ⟨version, title, number, terms, contact, license, docs, paths, components, whole⟩

/-! ## One file twice -/

/-- A file with a title, a server, a tag, a link, an operation and a model. -/
def petsInterface : Declarations where
  docBlocks := ["!info Pets 1.0\n!server /v1\n!tag pets\n!link Docs /docs", "!get /pets", "!model"]
  routines := [⟨"list", "!get /pets", false⟩]
  records := [⟨"Pet", "!model", {}, some []⟩]

/-- What a walk over the file adds, and what it overwrites. -/
theorem walk_petsInterface (spec : Spec) :
    spec.walk petsInterface =
      { spec with
        info := { spec.info with title := "Pets", version := "1.0", description := none }
        servers := spec.servers ++ [⟨"/v1", none⟩]
        tags := spec.tags ++ [⟨"pets", none⟩]
        links := spec.links ++ [⟨"Docs", "/docs"⟩]
        operations := spec.operations ++ [{ method := some .get, path := "/pets" }]
        models := Keyed.putNew spec.models "Pet" { name := "Pet", schema := .object } } := by
  have lists : annotations "!info Pets 1.0\n!server /v1\n!tag pets\n!link Docs /docs" =
      [.info ⟨"Pets", "1.0", ""⟩, .server ⟨"/v1", ""⟩, .tag ⟨"pets", ""⟩,
        .link ⟨"Docs", "/docs"⟩] := by with_unfolding_all rfl
  have route : annotations "!get /pets" = [.route ⟨.get, "/pets", "", "", [], false⟩] := by
    with_unfolding_all rfl
  have model : annotations "!model" = [.model ""] := by with_unfolding_all rfl
  have operations : petsInterface.operations = [{ method := some .get, path := "/pets" }] := by
    with_unfolding_all rfl
  have models : petsInterface.models = [("Pet", { name := "Pet", schema := .object })] := by
    with_unfolding_all rfl
  rw [walk_eq, withDeclared, operations, models]
  simp only [petsInterface, List.foldl_cons, List.foldl_nil, addBlock, lists, route, model]
  rfl

/-- The second walk over the file adds its server again, and its operation, which takes the place of
the first one. -/
theorem rewalk_of_petsInterface :
    let once := [petsInterface].foldl walk {}
    let twice := [petsInterface].foldl walk once
    once.build.info.title = "Pets" ∧ twice.build.info.title = "Pets" ∧
      once.build.servers = [⟨"/v1", none⟩] ∧
      twice.build.servers = [⟨"/v1", none⟩, ⟨"/v1", none⟩] ∧
      twice.operations = once.operations ++ once.operations ∧
      Keyed.keys once.build.paths = ["/pets"] ∧ twice.build.paths = once.build.paths ∧
      Keyed.keys once.build.componentSchemas = ["Pet"] ∧
      twice.build.components = once.build.components := by
  intro once twice
  obtain ⟨-, title, -, -, -, -, -, paths, components, -⟩ :=
    rewalk_changes_lists_only {} [petsInterface]
  have first : once = ({} : Spec).walk petsInterface := rfl
  have second : twice = once.walk petsInterface := rfl
  rw [walk_petsInterface] at first second
  have named : once.build.info.title = "Pets" := by rw [first]; rfl
  refine ⟨named, title.trans named, ?_, ?_, ?_, ?_, paths, ?_, components⟩
  · rw [first]
    rfl
  · rw [second, first]
    rfl
  · rw [second, first]
    rfl
  · rw [first]
    rfl
  · rw [first]
    rfl

end Spec
end DocApi
