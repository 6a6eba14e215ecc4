import DocApi.Document.Method
import DocApi.Schema.Basic

/-!
# Interface descriptions

The document that describes an interface: what it is called, where it is served, which operations
its paths have, and which schemas and security schemes they refer to.
-/

namespace DocApi

/-- Whom to ask about the interface. -/
structure Contact where
  name : Option String := none
  email : Option String := none
  url : Option String := none
deriving DecidableEq, Repr

/-- The license of the interface. -/
structure License where
  name : String
  url : Option String := none
deriving DecidableEq, Repr

/-- What the interface is called and who is behind it. -/
structure Info where
  title : String := ""
  version : String := ""
  description : Option String := none
  termsOfService : Option String := none
  contact : Option Contact := none
  license : Option License := none
deriving DecidableEq, Repr

/-- A place where the interface is served. -/
structure Server where
  url : String
  description : Option String := none
deriving DecidableEq, Repr

/-- A tag that groups operations. -/
structure Tag where
  name : String
  description : Option String := none
deriving DecidableEq, Repr

/-- Further documentation. -/
structure ExternalDocs where
  url : String
  description : Option String := none
deriving DecidableEq, Repr

/-- A parameter of an operation. -/
structure Parameter where
  name : String
  location : Location
  description : Option String := none
  required : Bool
  schema : Schema
  example? : Option Json := none
deriving Repr

/-- A body in one format. -/
structure MediaType where
  schema : Schema
deriving Repr

/-- The body of a request. -/
structure RequestBody where
  description : Option String := none
  required : Bool
  content : Keyed MediaType
deriving Repr

/-- An answer to a request. -/
structure Response where
  description : String
  content : Option (Keyed MediaType) := none
deriving Repr

/-- The schemes that a request must satisfy, with the scopes each one needs. -/
abbrev SecurityRequirement := Keyed (List String)

/-- What a path answers to one method. -/
structure Operation where
  tags : List String := []
  summary : Option String := none
  description : Option String := none
  operationId : Option String := none
  parameters : List Parameter := []
  requestBody : Option RequestBody := none
  responses : Keyed Response := []
  deprecated : Bool := false
  security : List SecurityRequirement := []
deriving Repr

/-- The operations of one path, one for each method at most. -/
structure PathItem where
  get : Option Operation := none
  put : Option Operation := none
  post : Option Operation := none
  delete : Option Operation := none
  options : Option Operation := none
  head : Option Operation := none
  patch : Option Operation := none
  trace : Option Operation := none
deriving Repr

namespace PathItem

/-- The operation for a method. -/
def operation (item : PathItem) : Method → Option Operation
  | .get => item.get
  | .put => item.put
  | .post => item.post
  | .delete => item.delete
  | .options => item.options
  | .head => item.head
  | .patch => item.patch
  | .trace => item.trace

/-- Sets the operation for a method. -/
def setOperation (item : PathItem) (method : Method) (operation : Operation) : PathItem :=
  match method with
  | .get => { item with get := some operation }
  | .put => { item with put := some operation }
  | .post => { item with post := some operation }
  | .delete => { item with delete := some operation }
  | .options => { item with options := some operation }
  | .head => { item with head := some operation }
  | .patch => { item with patch := some operation }
  | .trace => { item with trace := some operation }

/-- Setting the operation for one method changes the operation for that method only. -/
theorem operation_setOperation (item : PathItem) (set asked : Method) (operation : Operation) :
    (item.setOperation set operation).operation asked =
      if asked = set then some operation else item.operation asked := by
  cases set <;> cases asked <;> rfl

/-- A path item is known by its operations. -/
theorem eq_of_operation {first second : PathItem}
    (same : ∀ method, first.operation method = second.operation method) : first = second := by
  have get := same .get
  have put := same .put
  have post := same .post
  have delete := same .delete
  have options := same .options
  have head := same .head
  have patch := same .patch
  have trace := same .trace
  cases first
  cases second
  simp_all [operation]

end PathItem

/-- One way to be granted access, with the scopes that can be asked for. -/
structure OAuthFlow where
  authorizationUrl : Option String := none
  tokenUrl : Option String := none
  scopes : Keyed String := []
deriving DecidableEq, Repr

/-- The ways to be granted access. -/
structure OAuthFlows where
  implicit : Option OAuthFlow := none
  password : Option OAuthFlow := none
  clientCredentials : Option OAuthFlow := none
  authorizationCode : Option OAuthFlow := none
deriving DecidableEq, Repr

/-- Changes every flow that is there. -/
def OAuthFlows.mapFlows (change : OAuthFlow → OAuthFlow) (flows : OAuthFlows) : OAuthFlows where
  implicit := flows.implicit.map change
  password := flows.password.map change
  clientCredentials := flows.clientCredentials.map change
  authorizationCode := flows.authorizationCode.map change

/-- A way to secure operations. -/
structure SecurityScheme where
  /-- `apiKey`, `http`, `oauth2` or `openIdConnect`, when the kind is known. -/
  type : Option String := none
  description : Option String := none
  /-- The name of the parameter that holds a key. -/
  name : Option String := none
  /-- The place of the parameter that holds a key. -/
  location : Option String := none
  /-- The scheme of the authorization header. -/
  scheme : Option String := none
  bearerFormat : Option String := none
  flows : Option OAuthFlows := none
  openIdConnectUrl : Option String := none
deriving DecidableEq, Repr

/-- The schemas and security schemes that a document defines. -/
structure Components where
  schemas : Keyed Schema := []
  securitySchemes : Keyed SecurityScheme := []
deriving Repr

/-- The description of an interface. -/
structure Document where
  /-- The version of the format. -/
  openapi : String
  info : Info
  servers : List Server := []
  tags : List Tag := []
  paths : Keyed PathItem := []
  components : Option Components := none
  externalDocs : Option ExternalDocs := none
deriving Repr

/-- A text, unless it is empty. -/
def nonEmptyText? (text : String) : Option String := if text = "" then none else some text

/-- The format of every body. -/
def jsonMediaType : String := "application/json"

/-- A body in the one format there is. -/
def jsonContent (schema : Schema) : Keyed MediaType := [(jsonMediaType, ⟨schema⟩)]

end DocApi
