import DocApi.Document.Json
import DocApi.Proofs.Schema.RoundTrip
import DocApi.Proofs.Spec.SchemaNodes

/-!
# Reading documents back

A document that is written as JSON and read again is the same document, with the same order of
paths, responses, schemas and all other tables, except that an example which is null, of a schema
or of a parameter, is no example afterwards.
-/

namespace DocApi

open Json

/-! ## Parts without examples -/

@[simp] theorem Json.text?_eq (key : String) (value : Option String) :
    Json.text? key value = field? key (value.map .string) := rfl

theorem Contact.readsBack : ReadsBack Contact.ofJson? Contact.toJson id := by
  refine ⟨fun contact => ?_, fun contact => record_ne_null _⟩
  simp [Contact.ofJson?, Contact.toJson, readsBack_string.optional]

theorem License.readsBack : ReadsBack License.ofJson? License.toJson id := by
  refine ⟨fun license => ?_, fun license => record_ne_null _⟩
  simp [License.ofJson?, License.toJson, readsBack_string.optional, string?]

theorem Info.readsBack : ReadsBack Info.ofJson? Info.toJson id := by
  refine ⟨fun info => ?_, fun info => record_ne_null _⟩
  simp [Info.ofJson?, Info.toJson, readsBack_string.optional, string?, Contact.readsBack.optional,
    License.readsBack.optional]

theorem Server.readsBack : ReadsBack Server.ofJson? Server.toJson id := by
  refine ⟨fun server => ?_, fun server => record_ne_null _⟩
  simp [Server.ofJson?, Server.toJson, readsBack_string.optional, string?]

theorem Tag.readsBack : ReadsBack Tag.ofJson? Tag.toJson id := by
  refine ⟨fun tag => ?_, fun tag => record_ne_null _⟩
  simp [Tag.ofJson?, Tag.toJson, readsBack_string.optional, string?]

theorem ExternalDocs.readsBack : ReadsBack ExternalDocs.ofJson? ExternalDocs.toJson id := by
  refine ⟨fun docs => ?_, fun docs => record_ne_null _⟩
  simp [ExternalDocs.ofJson?, ExternalDocs.toJson, readsBack_string.optional, string?]

theorem SecurityRequirement.readsBack :
    ReadsBack SecurityRequirement.ofJson? SecurityRequirement.toJson id := by
  refine ⟨fun requirement => ?_, nofun⟩
  have back := readsBack_string.list.table.back requirement
  rwa [List.map_id_fun, Keyed.mapValues_id] at back

theorem OAuthFlow.readsBack : ReadsBack OAuthFlow.ofJson? OAuthFlow.toJson id := by
  refine ⟨fun flow => ?_, fun flow => record_ne_null _⟩
  simp [OAuthFlow.ofJson?, OAuthFlow.toJson, readsBack_string.optional, readsBack_string.table.back]

theorem OAuthFlows.readsBack : ReadsBack OAuthFlows.ofJson? OAuthFlows.toJson id := by
  refine ⟨fun flows => ?_, fun flows => record_ne_null _⟩
  simp [OAuthFlows.ofJson?, OAuthFlows.toJson, OAuthFlow.readsBack.optional]

theorem SecurityScheme.readsBack : ReadsBack SecurityScheme.ofJson? SecurityScheme.toJson id := by
  refine ⟨fun scheme => ?_, fun scheme => record_ne_null _⟩
  simp [SecurityScheme.ofJson?, SecurityScheme.toJson, readsBack_string.optional,
    OAuthFlows.readsBack.optional]

/-! ## Parts with examples -/

theorem Location.ofJson?_word (location : Location) :
    Location.ofJson? (.string location.word) = some location := by
  cases location <;> rfl

/-- The parameter without the examples that are null. -/
def Parameter.withoutNullExamples (parameter : Parameter) : Parameter :=
  { parameter with
    schema := parameter.schema.withoutNullExamples
    example? := settleExample parameter.example? }

theorem Parameter.readsBack :
    ReadsBack Parameter.ofJson? Parameter.toJson Parameter.withoutNullExamples := by
  refine ⟨fun parameter => ?_, fun parameter => record_ne_null _⟩
  simp [Parameter.ofJson?, Parameter.toJson, Parameter.withoutNullExamples,
    readsBack_string.optional, string?, bool?, Location.ofJson?_word, Schema.ofJson?_toJson,
    readOptional_example]

/-- The body without the examples that are null. -/
def MediaType.withoutNullExamples (media : MediaType) : MediaType :=
  ⟨media.schema.withoutNullExamples⟩

theorem MediaType.readsBack :
    ReadsBack MediaType.ofJson? MediaType.toJson MediaType.withoutNullExamples := by
  refine ⟨fun media => ?_, fun media => record_ne_null _⟩
  simp [MediaType.ofJson?, MediaType.toJson, MediaType.withoutNullExamples, Schema.ofJson?_toJson]

/-- The formats of a body are read back. -/
theorem MediaType.readsBack_content :
    ReadsBack (tableOf? MediaType.ofJson?) MediaType.contentToJson
      (Keyed.mapValues MediaType.withoutNullExamples) :=
  MediaType.readsBack.table

/-- The request body without the examples that are null. -/
def RequestBody.withoutNullExamples (body : RequestBody) : RequestBody :=
  { body with content := Keyed.mapValues MediaType.withoutNullExamples body.content }

theorem RequestBody.readsBack :
    ReadsBack RequestBody.ofJson? RequestBody.toJson RequestBody.withoutNullExamples := by
  refine ⟨fun body => ?_, fun body => record_ne_null _⟩
  simp [RequestBody.ofJson?, RequestBody.toJson, RequestBody.withoutNullExamples,
    readsBack_string.optional, bool?, MediaType.readsBack_content.back]

/-- The response without the examples that are null. -/
def Response.withoutNullExamples (response : Response) : Response :=
  { response with
    content := response.content.map (Keyed.mapValues MediaType.withoutNullExamples) }

theorem Response.readsBack :
    ReadsBack Response.ofJson? Response.toJson Response.withoutNullExamples := by
  refine ⟨fun response => ?_, fun response => record_ne_null _⟩
  simp [Response.ofJson?, Response.toJson, Response.withoutNullExamples, string?,
    MediaType.readsBack_content.optional]

/-- The operation without the examples that are null. -/
def Operation.withoutNullExamples (operation : Operation) : Operation :=
  { operation with
    parameters := operation.parameters.map Parameter.withoutNullExamples
    requestBody := operation.requestBody.map RequestBody.withoutNullExamples
    responses := Keyed.mapValues Response.withoutNullExamples operation.responses }

theorem Operation.readsBack :
    ReadsBack Operation.ofJson? Operation.toJson Operation.withoutNullExamples := by
  refine ⟨fun operation => ?_, fun operation => record_ne_null _⟩
  simp [Operation.ofJson?, Operation.toJson, Operation.withoutNullExamples,
    readsBack_string.optional, readsBack_string.defaultedList, Parameter.readsBack.defaultedList,
    RequestBody.readsBack.optional, Response.readsBack.table.back,
    SecurityRequirement.readsBack.defaultedList]

/-- The path item without the examples that are null. -/
def PathItem.withoutNullExamples (item : PathItem) : PathItem where
  get := item.get.map Operation.withoutNullExamples
  put := item.put.map Operation.withoutNullExamples
  post := item.post.map Operation.withoutNullExamples
  delete := item.delete.map Operation.withoutNullExamples
  options := item.options.map Operation.withoutNullExamples
  head := item.head.map Operation.withoutNullExamples
  patch := item.patch.map Operation.withoutNullExamples
  trace := item.trace.map Operation.withoutNullExamples

theorem PathItem.readsBack :
    ReadsBack PathItem.ofJson? PathItem.toJson PathItem.withoutNullExamples := by
  refine ⟨fun item => ?_, fun item => record_ne_null _⟩
  simp [PathItem.ofJson?, PathItem.toJson, PathItem.withoutNullExamples, Method.table,
    PathItem.operation, Operation.readsBack.optional]

/-- The components without the examples that are null. -/
def Components.withoutNullExamples (components : Components) : Components :=
  { components with
    schemas := Keyed.mapValues Schema.withoutNullExamples components.schemas }

theorem Components.readsBack :
    ReadsBack Components.ofJson? Components.toJson Components.withoutNullExamples := by
  refine ⟨fun components => ?_, fun components => record_ne_null _⟩
  simp [Components.ofJson?, Components.toJson, Components.withoutNullExamples,
    Schema.readsBack.defaultedTable, SecurityScheme.readsBack.defaultedTable]

/-- The document without the examples that are null. -/
def Document.withoutNullExamples (document : Document) : Document :=
  { document with
    paths := Keyed.mapValues PathItem.withoutNullExamples document.paths
    components := document.components.map Components.withoutNullExamples }

theorem Document.readsBack :
    ReadsBack Document.ofJson? Document.toJson Document.withoutNullExamples := by
  refine ⟨fun document => ?_, fun document => record_ne_null _⟩
  simp [Document.ofJson?, Document.toJson, Document.withoutNullExamples, string?,
    Info.readsBack.back, Server.readsBack.defaultedList, Tag.readsBack.defaultedList,
    PathItem.readsBack.table.back, Components.readsBack.optional, ExternalDocs.readsBack.optional]

/-! ## Documents that are read back unchanged -/

/-- No schema and no parameter of an operation has null for its example. -/
structure Operation.NullFree (operation : Operation) : Prop where
  schemas : ∀ schema, operation.Holds schema → schema.NullFree
  parameters : ∀ parameter ∈ operation.parameters, parameter.example? ≠ some .null

/-- No schema and no parameter of a document has null for its example. -/
structure Document.NullFree (document : Document) : Prop where
  schemas : ∀ schema, document.Holds schema → schema.NullFree
  parameters : ∀ path item method operation, (path, item) ∈ document.paths →
    item.operation method = some operation →
    ∀ parameter ∈ operation.parameters, parameter.example? ≠ some .null

theorem optionMap_eq_self_iff {α : Type} (f : α → α) (value : Option α) :
    value.map f = value ↔ ∀ inner, value = some inner → f inner = inner := by
  cases value <;> simp

theorem listMap_eq_self_iff {α : Type} (f : α → α) (items : List α) :
    items.map f = items ↔ ∀ item ∈ items, f item = item := by
  induction items <;> simp_all

theorem Parameter.withoutNullExamples_eq_self_iff (parameter : Parameter) :
    parameter.withoutNullExamples = parameter ↔
      parameter.schema.NullFree ∧ parameter.example? ≠ some .null := by
  rcases parameter with ⟨name, location, description, required, schema, example?⟩
  simp [withoutNullExamples, Schema.withoutNullExamples_eq_self_iff, settleExample_eq_self_iff]

theorem MediaType.withoutNullExamples_eq_self_iff (media : MediaType) :
    media.withoutNullExamples = media ↔ media.schema.NullFree := by
  rcases media with ⟨schema⟩
  simp [withoutNullExamples, Schema.withoutNullExamples_eq_self_iff]

theorem RequestBody.withoutNullExamples_eq_self_iff (body : RequestBody) :
    body.withoutNullExamples = body ↔ ∀ entry ∈ body.content, entry.2.schema.NullFree := by
  rcases body with ⟨description, required, content⟩
  simp [withoutNullExamples, Keyed.mapValues_eq_self_iff, MediaType.withoutNullExamples_eq_self_iff]

theorem Response.withoutNullExamples_eq_self_iff (response : Response) :
    response.withoutNullExamples = response ↔
      ∀ content, response.content = some content → ∀ entry ∈ content, entry.2.schema.NullFree := by
  rcases response with ⟨description, content⟩
  simp [withoutNullExamples, optionMap_eq_self_iff, Keyed.mapValues_eq_self_iff,
    MediaType.withoutNullExamples_eq_self_iff]

theorem Operation.withoutNullExamples_eq_self_iff (operation : Operation) :
    operation.withoutNullExamples = operation ↔ operation.NullFree := by
  have parts : operation.withoutNullExamples = operation ↔
      (∀ parameter ∈ operation.parameters, parameter.withoutNullExamples = parameter) ∧
        (∀ body, operation.requestBody = some body → body.withoutNullExamples = body) ∧
        ∀ entry ∈ operation.responses, entry.2.withoutNullExamples = entry.2 := by
    rcases operation with ⟨tags, summary, description, operationId, parameters, requestBody,
      responses, deprecated, security⟩
    simp [withoutNullExamples, listMap_eq_self_iff, optionMap_eq_self_iff,
      Keyed.mapValues_eq_self_iff]
  rw [parts]
  constructor
  · rintro ⟨parameters, body, responses⟩
    refine ⟨?_, ?_⟩
    · intro schema held
      cases held with
      | parameter member =>
          exact ((Parameter.withoutNullExamples_eq_self_iff _).1 (parameters _ member)).1
      | body found member =>
          exact (RequestBody.withoutNullExamples_eq_self_iff _).1 (body _ found) _ member
      | response member found inContent =>
          exact (Response.withoutNullExamples_eq_self_iff _).1 (responses _ member) _ found _
            inContent
    · intro parameter member
      exact ((Parameter.withoutNullExamples_eq_self_iff _).1 (parameters _ member)).2
  · intro free
    refine ⟨?_, ?_, ?_⟩
    · intro parameter member
      exact (Parameter.withoutNullExamples_eq_self_iff _).2
        ⟨free.schemas _ (.parameter member), free.parameters _ member⟩
    · intro body found
      exact (RequestBody.withoutNullExamples_eq_self_iff _).2
        fun entry member => free.schemas _ (.body found member)
    · intro entry member
      exact (Response.withoutNullExamples_eq_self_iff _).2
        fun content found inner inContent => free.schemas _ (.response member found inContent)

theorem PathItem.operation_withoutNullExamples (item : PathItem) (method : Method) :
    item.withoutNullExamples.operation method =
      (item.operation method).map Operation.withoutNullExamples := by
  cases method <;> rfl

theorem PathItem.withoutNullExamples_eq_self_iff (item : PathItem) :
    item.withoutNullExamples = item ↔
      ∀ method operation, item.operation method = some operation → operation.NullFree := by
  constructor
  · intro unchanged method operation found
    have kept := item.operation_withoutNullExamples method
    rw [unchanged, found, Option.map_some, Option.some.injEq] at kept
    exact (Operation.withoutNullExamples_eq_self_iff operation).1 kept.symm
  · intro free
    refine eq_of_operation fun method => ?_
    rw [operation_withoutNullExamples, optionMap_eq_self_iff]
    intro operation found
    exact (Operation.withoutNullExamples_eq_self_iff operation).2 (free method operation found)

theorem Components.withoutNullExamples_eq_self_iff (components : Components) :
    components.withoutNullExamples = components ↔
      ∀ entry ∈ components.schemas, entry.2.NullFree := by
  rcases components with ⟨schemas, securitySchemes⟩
  simp [withoutNullExamples, Keyed.mapValues_eq_self_iff, Schema.withoutNullExamples_eq_self_iff]

theorem Document.withoutNullExamples_eq_self_iff (document : Document) :
    document.withoutNullExamples = document ↔ document.NullFree := by
  have parts : document.withoutNullExamples = document ↔
      (∀ entry ∈ document.paths, entry.2.withoutNullExamples = entry.2) ∧
        ∀ components, document.components = some components →
          components.withoutNullExamples = components := by
    rcases document with ⟨openapi, info, servers, tags, paths, components, externalDocs⟩
    simp [withoutNullExamples, optionMap_eq_self_iff, Keyed.mapValues_eq_self_iff]
  rw [parts]
  constructor
  · rintro ⟨paths, components⟩
    have inPaths : ∀ entry ∈ document.paths, ∀ method operation,
        entry.2.operation method = some operation → operation.NullFree :=
      fun entry member => (PathItem.withoutNullExamples_eq_self_iff _).1 (paths entry member)
    refine ⟨?_, ?_⟩
    · intro schema held
      cases held with
      | component found member =>
          exact (Components.withoutNullExamples_eq_self_iff _).1 (components _ found) _ member
      | operation member found inside => exact (inPaths _ member _ _ found).schemas _ inside
    · intro path item method operation member found
      exact (inPaths _ member _ _ found).parameters
  · intro free
    refine ⟨?_, ?_⟩
    · intro entry member
      refine (PathItem.withoutNullExamples_eq_self_iff _).2 fun method operation found => ?_
      exact ⟨fun schema inside => free.schemas _ (.operation member found inside),
        free.parameters _ _ _ _ member found⟩
    · intro components found
      exact (Components.withoutNullExamples_eq_self_iff _).2
        fun entry member => free.schemas _ (.component found member)

/-- A document that is written as JSON and read again is the document without the examples that are
null; so it is the same document exactly when no schema and no parameter has such an example. -/
theorem Document.json_round_trip (document : Document) :
    Document.ofJson? document.toJson = some document.withoutNullExamples ∧
      (Document.ofJson? document.toJson = some document ↔ document.NullFree) := by
  have back := Document.readsBack.back document
  refine ⟨back, ?_⟩
  rw [back, Option.some.injEq]
  exact document.withoutNullExamples_eq_self_iff

/-! ## A null example -/

/-- A document in which a parameter and the property of a schema have the same example, if any. -/
def exampleDocument (example? : Option Json) : Document where
  openapi := "3.0.3"
  info := { title := "Pets", version := "1.0" }
  paths :=
    [("/pets", { get := some {
        parameters := [{
          name := "id"
          location := .query
          required := false
          schema := .typed "string" none
          example? }] } })]
  components := some {
    schemas := [("Pet", { Schema.object with
      properties := some [("name", { Schema.typed "string" none with example? })] })] }

/-- Null examples are lost, and a text stays. -/
theorem json_round_trip_of_exampleDocument :
    Document.ofJson? (exampleDocument (some .null)).toJson = some (exampleDocument none) ∧
      ¬ (exampleDocument (some .null)).NullFree ∧
      Document.ofJson? (exampleDocument (some (.string "Rex"))).toJson =
        some (exampleDocument (some (.string "Rex"))) ∧
      (exampleDocument (some (.string "Rex"))).NullFree := by
  obtain ⟨settled, free⟩ := Document.json_round_trip (exampleDocument (some .null))
  obtain ⟨kept, free'⟩ := Document.json_round_trip (exampleDocument (some (.string "Rex")))
  have lost : (exampleDocument (some .null)).withoutNullExamples = exampleDocument none := rfl
  have same : (exampleDocument (some (.string "Rex"))).withoutNullExamples =
      exampleDocument (some (.string "Rex")) := rfl
  rw [lost] at settled
  rw [same] at kept
  refine ⟨settled, ?_, kept, free'.1 kept⟩
  rw [← free, settled]
  simp [exampleDocument]

end DocApi
