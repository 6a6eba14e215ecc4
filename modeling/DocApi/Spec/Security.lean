import DocApi.Annotation.Line
import DocApi.Document.Basic

/-!
# Security schemes

What the arguments of a security line mean depends on the kind of scheme that it declares.
-/

namespace DocApi

/-- The flows that a security line with a flow word and up to two URLs declares. A word that is no
flow declares the implicit flow, when there is a URL or the word is one. -/
def OAuthFlows.ofArguments (word : String) (first second : Option String) : Option OAuthFlows :=
  let kind := asciiLower word
  if kind = "implicit" then some { implicit := some { authorizationUrl := first } }
  else if kind = "password" then some { password := some { tokenUrl := first } }
  else if kind = "clientcredentials" || kind = "application" then
    some { clientCredentials := some { tokenUrl := first } }
  else if kind = "authorizationcode" || kind = "accesscode" then
    some { authorizationCode := some { authorizationUrl := first, tokenUrl := second.or first } }
  else
    match first.or (if isWebUrl word then some word else none) with
    | some url => some { implicit := some { authorizationUrl := some url } }
    | none => none

/-- The scheme that a security line declares; of an unknown kind only the description is kept. -/
def SecurityScheme.ofLine (line : SecurityLine) : SecurityScheme :=
  let kind := asciiLower line.kind
  let first := line.arguments[0]?
  let second := line.arguments[1]?
  let description := nonEmptyText? line.description
  if kind = "apikey" then
    { type := some "apiKey", description, location := first, name := some (second.getD line.name) }
  else if kind = "http" then
    { type := some "http", description, scheme := first, bearerFormat := line.bearerFormat }
  else if kind = "oauth2" then
    { type := some "oauth2", description
      flows := OAuthFlows.ofArguments (first.getD "") second line.arguments[2]? }
  else if kind = "openidconnect" then
    { type := some "openIdConnect", description, openIdConnectUrl := first }
  else { description }

/-- Adds a scope to every flow of a scheme. -/
def SecurityScheme.addScope (scheme : SecurityScheme) (name description : String) :
    SecurityScheme :=
  { scheme with
    flows := scheme.flows.map (·.mapFlows fun flow =>
      { flow with scopes := Keyed.put flow.scopes name description }) }

end DocApi
