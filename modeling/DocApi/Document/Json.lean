import DocApi.Document.Basic
import DocApi.Schema.Json

/-!
# Interface descriptions as JSON

How each part of a description is written and read. The fields of a part are written in a fixed
order; those that are absent, off or empty are left out unless the format demands them.
-/

namespace DocApi

/-- A string that may be missing. -/
def Json.text? (key : String) (value : Option String) : Option (String × Json) :=
  Json.field? key (value.map .string)

/-! ## General information -/

namespace Contact

/-- A contact as a JSON value. -/
def toJson (contact : Contact) : Json :=
  .record [Json.text? "name" contact.name, Json.text? "email" contact.email,
    Json.text? "url" contact.url]

/-- Reads a contact. -/
def ofJson? (value : Json) : Option Contact := do
  let members ← Json.record? ["name", "email", "url"] 3 value
  return {
    name := ← Json.optional? members "name" Json.string?
    email := ← Json.optional? members "email" Json.string?
    url := ← Json.optional? members "url" Json.string? }

end Contact

namespace License

/-- A license as a JSON value. -/
def toJson (license : License) : Json :=
  .record [Json.field "name" (.string license.name), Json.text? "url" license.url]

/-- Reads a license. -/
def ofJson? (value : Json) : Option License := do
  let members ← Json.record? ["name", "url"] 2 value
  return {
    name := ← Json.required? members "name" Json.string?
    url := ← Json.optional? members "url" Json.string? }

end License

namespace Info

/-- General information as a JSON value. -/
def toJson (info : Info) : Json :=
  .record
    [Json.field "title" (.string info.title),
      Json.field "version" (.string info.version),
      Json.text? "description" info.description,
      Json.text? "termsOfService" info.termsOfService,
      Json.field? "contact" (info.contact.map Contact.toJson),
      Json.field? "license" (info.license.map License.toJson)]

/-- Reads general information. -/
def ofJson? (value : Json) : Option Info := do
  let members ← Json.record?
    ["title", "version", "description", "termsOfService", "contact", "license"] 6 value
  return {
    title := ← Json.required? members "title" Json.string?
    version := ← Json.required? members "version" Json.string?
    description := ← Json.optional? members "description" Json.string?
    termsOfService := ← Json.optional? members "termsOfService" Json.string?
    contact := ← Json.optional? members "contact" Contact.ofJson?
    license := ← Json.optional? members "license" License.ofJson? }

end Info

namespace Server

/-- A server as a JSON value. -/
def toJson (server : Server) : Json :=
  .record [Json.field "url" (.string server.url), Json.text? "description" server.description]

/-- Reads a server. -/
def ofJson? (value : Json) : Option Server := do
  let members ← Json.record? ["url", "description"] 2 value
  return {
    url := ← Json.required? members "url" Json.string?
    description := ← Json.optional? members "description" Json.string? }

end Server

namespace Tag

/-- A tag as a JSON value. -/
def toJson (tag : Tag) : Json :=
  .record [Json.field "name" (.string tag.name), Json.text? "description" tag.description]

/-- Reads a tag. -/
def ofJson? (value : Json) : Option Tag := do
  let members ← Json.record? ["name", "description"] 2 value
  return {
    name := ← Json.required? members "name" Json.string?
    description := ← Json.optional? members "description" Json.string? }

end Tag

namespace ExternalDocs

/-- Further documentation as a JSON value. -/
def toJson (docs : ExternalDocs) : Json :=
  .record [Json.field "url" (.string docs.url), Json.text? "description" docs.description]

/-- Reads further documentation. -/
def ofJson? (value : Json) : Option ExternalDocs := do
  let members ← Json.record? ["url", "description"] 2 value
  return {
    url := ← Json.required? members "url" Json.string?
    description := ← Json.optional? members "description" Json.string? }

end ExternalDocs

/-! ## Operations -/

/-- Reads a location: its word, or an object with its word as the only key and no value. -/
def Location.ofJson? : Json → Option Location
  | .string word => Location.ofWord? word
  | .object [(word, .null)] => Location.ofWord? word
  | _ => none

namespace Parameter

/-- A parameter as a JSON value. -/
def toJson (parameter : Parameter) : Json :=
  .record
    [Json.field "name" (.string parameter.name),
      Json.field "in" (.string parameter.location.word),
      Json.text? "description" parameter.description,
      Json.field "required" (.bool parameter.required),
      Json.field "schema" parameter.schema.toJson,
      Json.field? "example" parameter.example?]

/-- Reads a parameter. -/
def ofJson? (value : Json) : Option Parameter := do
  let members ← Json.record?
    ["name", "in", "description", "required", "schema", "example"] 6 value
  return {
    name := ← Json.required? members "name" Json.string?
    location := ← Json.required? members "in" Location.ofJson?
    description := ← Json.optional? members "description" Json.string?
    required := ← Json.required? members "required" Json.bool?
    schema := ← Json.required? members "schema" Schema.ofJson?
    example? := ← Json.optional? members "example" some }

end Parameter

namespace MediaType

/-- A body in one format as a JSON value. -/
def toJson (media : MediaType) : Json := .record [Json.field "schema" media.schema.toJson]

/-- Reads a body in one format. -/
def ofJson? (value : Json) : Option MediaType := do
  let members ← Json.record? ["schema"] 1 value
  return ⟨← Json.required? members "schema" Schema.ofJson?⟩

/-- The formats of a body as a JSON value. -/
def contentToJson (content : Keyed MediaType) : Json := .object (Keyed.mapValues toJson content)

end MediaType

namespace RequestBody

/-- The body of a request as a JSON value. -/
def toJson (body : RequestBody) : Json :=
  .record
    [Json.text? "description" body.description,
      Json.field "required" (.bool body.required),
      Json.field "content" (MediaType.contentToJson body.content)]

/-- Reads the body of a request. -/
def ofJson? (value : Json) : Option RequestBody := do
  let members ← Json.record? ["description", "required", "content"] 3 value
  return {
    description := ← Json.optional? members "description" Json.string?
    required := ← Json.required? members "required" Json.bool?
    content := ← Json.required? members "content" (Json.tableOf? MediaType.ofJson?) }

end RequestBody

namespace Response

/-- A response as a JSON value. -/
def toJson (response : Response) : Json :=
  .record
    [Json.field "description" (.string response.description),
      Json.field? "content" (response.content.map MediaType.contentToJson)]

/-- Reads a response. -/
def ofJson? (value : Json) : Option Response := do
  let members ← Json.record? ["description", "content"] 2 value
  return {
    description := ← Json.required? members "description" Json.string?
    content := ← Json.optional? members "content" (Json.tableOf? MediaType.ofJson?) }

end Response

namespace SecurityRequirement

/-- A security requirement as a JSON value. -/
def toJson (requirement : SecurityRequirement) : Json :=
  .object (Keyed.mapValues (fun scopes => .array (scopes.map .string)) requirement)

/-- Reads a security requirement. -/
def ofJson? (value : Json) : Option SecurityRequirement :=
  Json.tableOf? (Json.listOf? Json.string?) value

end SecurityRequirement

namespace Operation

/-- The names of the fields, in the order in which they are written. -/
def fieldNames : List String :=
  ["tags", "summary", "description", "operationId", "parameters", "requestBody", "responses",
    "deprecated", "security"]

/-- An operation as a JSON value. -/
def toJson (operation : Operation) : Json :=
  .record
    [Json.list "tags" (operation.tags.map .string),
      Json.text? "summary" operation.summary,
      Json.text? "description" operation.description,
      Json.text? "operationId" operation.operationId,
      Json.list "parameters" (operation.parameters.map Parameter.toJson),
      Json.field? "requestBody" (operation.requestBody.map RequestBody.toJson),
      Json.field "responses" (.object (Keyed.mapValues Response.toJson operation.responses)),
      Json.flag "deprecated" operation.deprecated,
      Json.list "security" (operation.security.map SecurityRequirement.toJson)]

/-- Reads an operation. -/
def ofJson? (value : Json) : Option Operation := do
  let members ← Json.record? fieldNames 7 value
  return {
    tags := ← Json.defaulted? members "tags" [] (Json.listOf? Json.string?)
    summary := ← Json.optional? members "summary" Json.string?
    description := ← Json.optional? members "description" Json.string?
    operationId := ← Json.optional? members "operationId" Json.string?
    parameters := ← Json.defaulted? members "parameters" [] (Json.listOf? Parameter.ofJson?)
    requestBody := ← Json.optional? members "requestBody" RequestBody.ofJson?
    responses := ← Json.required? members "responses" (Json.tableOf? Response.ofJson?)
    deprecated := ← Json.defaulted? members "deprecated" false Json.bool?
    security := ← Json.defaulted? members "security" [] (Json.listOf? SecurityRequirement.ofJson?) }

end Operation

namespace PathItem

/-- The operations of a path as a JSON value. -/
def toJson (item : PathItem) : Json :=
  .record (Method.table.map fun (word, method) =>
    Json.field? word ((item.operation method).map Operation.toJson))

/-- Reads the operations of a path. -/
def ofJson? (value : Json) : Option PathItem := do
  let members ← Json.record? (Keyed.keys Method.table) 8 value
  let operation? := fun word => Json.optional? members word Operation.ofJson?
  return {
    get := ← operation? "get"
    put := ← operation? "put"
    post := ← operation? "post"
    delete := ← operation? "delete"
    options := ← operation? "options"
    head := ← operation? "head"
    patch := ← operation? "patch"
    trace := ← operation? "trace" }

end PathItem

/-! ## Security schemes -/

namespace OAuthFlow

/-- A flow as a JSON value. -/
def toJson (flow : OAuthFlow) : Json :=
  .record
    [Json.text? "authorizationUrl" flow.authorizationUrl,
      Json.text? "tokenUrl" flow.tokenUrl,
      Json.field "scopes" (.object (Keyed.mapValues .string flow.scopes))]

/-- Reads a flow. -/
def ofJson? (value : Json) : Option OAuthFlow := do
  let members ← Json.record? ["authorizationUrl", "tokenUrl", "scopes"] 3 value
  return {
    authorizationUrl := ← Json.optional? members "authorizationUrl" Json.string?
    tokenUrl := ← Json.optional? members "tokenUrl" Json.string?
    scopes := ← Json.required? members "scopes" (Json.tableOf? Json.string?) }

end OAuthFlow

namespace OAuthFlows

/-- Flows as a JSON value. -/
def toJson (flows : OAuthFlows) : Json :=
  .record
    [Json.field? "implicit" (flows.implicit.map OAuthFlow.toJson),
      Json.field? "password" (flows.password.map OAuthFlow.toJson),
      Json.field? "clientCredentials" (flows.clientCredentials.map OAuthFlow.toJson),
      Json.field? "authorizationCode" (flows.authorizationCode.map OAuthFlow.toJson)]

/-- Reads flows. -/
def ofJson? (value : Json) : Option OAuthFlows := do
  let members ← Json.record?
    ["implicit", "password", "clientCredentials", "authorizationCode"] 4 value
  return {
    implicit := ← Json.optional? members "implicit" OAuthFlow.ofJson?
    password := ← Json.optional? members "password" OAuthFlow.ofJson?
    clientCredentials := ← Json.optional? members "clientCredentials" OAuthFlow.ofJson?
    authorizationCode := ← Json.optional? members "authorizationCode" OAuthFlow.ofJson? }

end OAuthFlows

namespace SecurityScheme

/-- The names of the fields, in the order in which they are written. -/
def fieldNames : List String :=
  ["type", "description", "name", "in", "scheme", "bearerFormat", "flows", "openIdConnectUrl"]

/-- A security scheme as a JSON value. -/
def toJson (scheme : SecurityScheme) : Json :=
  .record
    [Json.text? "type" scheme.type,
      Json.text? "description" scheme.description,
      Json.text? "name" scheme.name,
      Json.text? "in" scheme.location,
      Json.text? "scheme" scheme.scheme,
      Json.text? "bearerFormat" scheme.bearerFormat,
      Json.field? "flows" (scheme.flows.map OAuthFlows.toJson),
      Json.text? "openIdConnectUrl" scheme.openIdConnectUrl]

/-- Reads a security scheme. -/
def ofJson? (value : Json) : Option SecurityScheme := do
  let members ← Json.record? fieldNames 8 value
  return {
    type := ← Json.optional? members "type" Json.string?
    description := ← Json.optional? members "description" Json.string?
    name := ← Json.optional? members "name" Json.string?
    location := ← Json.optional? members "in" Json.string?
    scheme := ← Json.optional? members "scheme" Json.string?
    bearerFormat := ← Json.optional? members "bearerFormat" Json.string?
    flows := ← Json.optional? members "flows" OAuthFlows.ofJson?
    openIdConnectUrl := ← Json.optional? members "openIdConnectUrl" Json.string? }

end SecurityScheme

/-! ## Documents -/

namespace Components

/-- Components as a JSON value. -/
def toJson (components : Components) : Json :=
  .record
    [Json.table "schemas" (Keyed.mapValues Schema.toJson components.schemas),
      Json.table "securitySchemes"
        (Keyed.mapValues SecurityScheme.toJson components.securitySchemes)]

/-- Reads components. -/
def ofJson? (value : Json) : Option Components := do
  let members ← Json.record? ["schemas", "securitySchemes"] 0 value
  return {
    schemas := ← Json.defaulted? members "schemas" [] (Json.tableOf? Schema.ofJson?)
    securitySchemes :=
      ← Json.defaulted? members "securitySchemes" [] (Json.tableOf? SecurityScheme.ofJson?) }

end Components

namespace Document

/-- The names of the fields, in the order in which they are written. -/
def fieldNames : List String :=
  ["openapi", "info", "servers", "tags", "paths", "components", "externalDocs"]

/-- A document as a JSON value. -/
def toJson (document : Document) : Json :=
  .record
    [Json.field "openapi" (.string document.openapi),
      Json.field "info" document.info.toJson,
      Json.list "servers" (document.servers.map Server.toJson),
      Json.list "tags" (document.tags.map Tag.toJson),
      Json.field "paths" (.object (Keyed.mapValues PathItem.toJson document.paths)),
      Json.field? "components" (document.components.map Components.toJson),
      Json.field? "externalDocs" (document.externalDocs.map ExternalDocs.toJson)]

/-- Reads a document. -/
def ofJson? (value : Json) : Option Document := do
  let members ← Json.record? fieldNames 7 value
  return {
    openapi := ← Json.required? members "openapi" Json.string?
    info := ← Json.required? members "info" Info.ofJson?
    servers := ← Json.defaulted? members "servers" [] (Json.listOf? Server.ofJson?)
    tags := ← Json.defaulted? members "tags" [] (Json.listOf? Tag.ofJson?)
    paths := ← Json.required? members "paths" (Json.tableOf? PathItem.ofJson?)
    components := ← Json.optional? members "components" Components.ofJson?
    externalDocs := ← Json.optional? members "externalDocs" ExternalDocs.ofJson? }

end Document

end DocApi
