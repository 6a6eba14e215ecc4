import DocApi.Document.Method
import DocApi.Json.Value

/-!
# Annotations

An annotation is one doc comment line that starts with `!` and a verb. It describes the interface
as a whole, one operation, or one model.
-/

namespace DocApi

/-- `!info title version description` -/
structure InfoLine where
  title : String
  version : String
  description : String
deriving DecidableEq, Repr

/-- `!contact name <email> url`, in any order. -/
structure ContactLine where
  name : String
  email : String
  url : String
deriving DecidableEq, Repr

/-- `!license name url` -/
structure LicenseLine where
  name : String
  url : String
deriving DecidableEq, Repr

/-- `!server url description` -/
structure ServerLine where
  url : String
  description : String
deriving DecidableEq, Repr

/-- `!tag name description` -/
structure TagLine where
  name : String
  description : String
deriving DecidableEq, Repr

/-- `!externalDocs url description` -/
structure DocsLine where
  url : String
  description : String
deriving DecidableEq, Repr

/-- `!link label url` -/
structure LinkLine where
  label : String
  url : String
deriving DecidableEq, Repr

/-- `!security name kind arguments.. "description"`; what the arguments mean depends on the
kind. -/
structure SecurityLine where
  name : String
  kind : String
  arguments : List String
  description : String
  /-- The value of the flag `bearerFormat`. -/
  bearerFormat : Option String
deriving DecidableEq, Repr

/-- `!scope scheme name description` -/
structure ScopeLine where
  scheme : String
  name : String
  description : String
deriving DecidableEq, Repr

/-- `!METHOD path -> operation "summary" #tag..` -/
structure RouteLine where
  method : Method
  path : String
  operationId : String
  summary : String
  tags : List String
  deprecated : Bool
deriving DecidableEq, Repr

/-- `!query`, `!path` and `!header`: `name:type "description" default=.. example=.. (values)` -/
structure ParameterLine where
  name : String
  location : Location
  /-- The type word, `string` when the line has none. -/
  type : String
  description : String
  required : Bool
  default : Option Json
  example? : Option Json
  values : Option (List Json)

/-- `!body schema "description"` -/
structure BodyLine where
  schema : String
  description : String
  required : Bool
deriving DecidableEq, Repr

/-- Whether a response was declared by `!ok` or by `!error`. -/
inductive Outcome where
  | success | failure
deriving DecidableEq, Repr

/-- `!ok` and `!error`: `status schema "description"` -/
structure ResponseLine where
  outcome : Outcome
  status : String
  /-- The schema word, empty when the line has none. -/
  schema : String
  description : String
deriving DecidableEq, Repr

/-- The schema words that stand for a response without a body. -/
def noBodyWords : List String := ["-", "nil", "none", "()"]

/-- Whether the response has a body. -/
def ResponseLine.hasBody (line : ResponseLine) : Bool :=
  line.schema != "" && !noBodyWords.contains line.schema

/-- `!field name:type "description" example=.. (values)` -/
structure FieldLine where
  name : String
  type : Option String
  description : String
  required : Bool
  example? : Option Json
  values : Option (List Json)

/-- `!schema name type "description" format=.. example=.. (values)` -/
structure SchemaLine where
  name : String
  type : String
  description : String
  format : Option String
  example? : Option Json
  values : Option (List Json)

/-- One annotation. -/
inductive Annotation where
  /-- `!api version` -/
  | api (version : String)
  | info (line : InfoLine)
  | contact (line : ContactLine)
  | license (line : LicenseLine)
  /-- `!tos url` -/
  | terms (url : String)
  | server (line : ServerLine)
  | tag (line : TagLine)
  | docs (line : DocsLine)
  | link (line : LinkLine)
  | security (line : SecurityLine)
  | scope (line : ScopeLine)
  | route (line : RouteLine)
  | parameter (line : ParameterLine)
  | body (line : BodyLine)
  | response (line : ResponseLine)
  /-- `!secure scheme..` -/
  | secure (schemes : List String)
  /-- `!model description` -/
  | model (description : String)
  | field (line : FieldLine)
  | schema (line : SchemaLine)

/-- Whether an annotation describes the interface as a whole, and not one operation or model. -/
def Annotation.isGlobal : Annotation → Bool
  | .api _ | .info _ | .contact _ | .license _ | .terms _ | .server _ | .tag _ | .docs _ | .link _
  | .security _ | .scope _ | .schema _ => true
  | .route _ | .parameter _ | .body _ | .response _ | .secure _ | .model _ | .field _ => false

end DocApi
