import DocApi.Spec.Basic

/-!
# Building the document

A finished specification becomes a document: links are listed in the description, and of several
operations with the same path and method the last one counts.
-/

namespace DocApi

/-- One line of the list of links. -/
def Link.line (link : Link) : String := "- [" ++ link.label ++ "](" ++ link.url ++ ")\n"

/-- The list of links, when there are any. -/
def linkList? (links : List Link) : Option String :=
  if links.isEmpty then none
  else some (links.foldl (fun text link => text ++ link.line) "Some useful links:\n")

/-- The operation that a draft describes. -/
def OperationDraft.toOperation (draft : OperationDraft) : Operation where
  tags := draft.tags
  summary := nonEmptyText? draft.summary
  description := nonEmptyText? draft.description
  operationId := nonEmptyText? draft.operationId
  parameters := draft.parameters
  requestBody := draft.requestBody
  responses := draft.responses
  deprecated := draft.deprecated
  security := draft.security

namespace Spec

/-- General information, with the links after its description. -/
def buildInfo (spec : Spec) : Info :=
  match linkList? spec.links, spec.info.description with
  | none, _ => spec.info
  | some links, none => { spec.info with description := some links }
  | some links, some text => { spec.info with description := some (text ++ "\n\n" ++ links) }

/-- Adds an operation to the paths, replacing one with the same path and method. -/
def addPath (paths : Keyed PathItem) (draft : OperationDraft) : Keyed PathItem :=
  match draft.method with
  | none => paths
  | some method =>
      let item := (Keyed.at? paths draft.path).getD {}
      Keyed.put paths draft.path (item.setOperation method draft.toOperation)

/-- The paths of operations. -/
def buildPaths (operations : List OperationDraft) : Keyed PathItem := operations.foldl addPath []

/-- The components, when there are any. -/
def buildComponents (spec : Spec) : Option Components :=
  let schemas := Keyed.mapValues NamedSchema.schema spec.mergedSchemas
  if schemas.isEmpty && spec.securitySchemes.isEmpty then none
  else some { schemas, securitySchemes := spec.securitySchemes }

/-- The document of a specification. -/
def build (spec : Spec) : Document where
  openapi := spec.version
  info := spec.buildInfo
  servers := spec.servers
  tags := spec.tags
  paths := buildPaths spec.operations
  components := spec.buildComponents
  externalDocs := spec.externalDocs

end Spec

end DocApi
