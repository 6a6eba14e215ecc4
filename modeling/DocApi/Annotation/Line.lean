import DocApi.Annotation.Basic
import DocApi.Annotation.Lexer
import DocApi.Json.Reader
import DocApi.Text.Lines

/-!
# Reading annotation lines

The verb of a line decides how its tokens are read. Tags and flags are taken out first, so they may
stand anywhere; the tokens that remain are positional. Switches such as `required`, the first
quoted text and the first parenthesised list are found wherever they stand among those.
-/

namespace DocApi

/-- What the verb of an annotation line stands for. -/
inductive Verb where
  | api | info | contact | license | terms | server | tag | docs | link | security | scope
  | parameter (location : Location)
  | body
  | response (outcome : Outcome)
  | secure | model | field | schema
  | route (method : Method)
deriving DecidableEq, Repr

/-- The verbs by their words in lower case. -/
def Verb.table : Keyed Verb :=
  [("api", .api), ("info", .info), ("contact", .contact), ("license", .license), ("tos", .terms),
    ("server", .server), ("tag", .tag), ("externaldocs", .docs), ("docs", .docs), ("link", .link),
    ("security", .security), ("scope", .scope), ("query", .parameter .query),
    ("path", .parameter .path), ("header", .parameter .header), ("body", .body),
    ("ok", .response .success), ("error", .response .failure), ("secure", .secure),
    ("model", .model), ("field", .field), ("schema", .schema)] ++
    Keyed.mapValues .route Method.table

/-- The verb that a word in lower case names. -/
def Verb.ofWord? (word : String) : Option Verb := Keyed.at? table word

/-- The words of the verbs in lower case, methods apart. -/
def Verb.words : List String :=
  ["api", "info", "contact", "license", "tos", "server", "tag", "externaldocs", "docs", "link",
    "security", "scope", "query", "path", "header", "body", "ok", "error", "secure", "model",
    "field", "schema"]

/-- Whether a word in lower case is a verb. Lines of other verbs are passed over before their tokens
are read. -/
def Verb.isKnown (word : String) : Bool := words.contains word || (Method.ofWord? word).isSome

/-- A flag of an annotation line. -/
structure Flag where
  key : String
  value : String
  /-- Whether the value stood in double quotes. -/
  quoted : Bool
deriving DecidableEq, Repr

/-- The tokens of a line by their roles. -/
structure LineTokens where
  /-- The tokens that are neither tags nor flags, in order. -/
  positional : List Token
  /-- The names of the tags, in order. -/
  tags : List String
  /-- The flags, in order. -/
  flags : List Flag

/-- Sorts tokens by their roles, keeping their order. -/
def LineTokens.ofTokens : List Token → LineTokens
  | [] => ⟨[], [], []⟩
  | token :: tokens =>
      let rest := ofTokens tokens
      match token with
      | .tag name => { rest with tags := name :: rest.tags }
      | .flag key value quoted => { rest with flags := ⟨key, value, quoted⟩ :: rest.flags }
      | token => { rest with positional := token :: rest.positional }

/-- The first token that satisfies `p`, and the tokens without it. -/
def takeFirst (p : Token → Bool) : List Token → Option (Token × List Token)
  | [] => none
  | token :: tokens =>
      if p token then some (token, tokens)
      else (takeFirst p tokens).map fun (found, rest) => (found, token :: rest)

/-- Whether a token is the bare word `name`, in any ASCII case. -/
def isSwitch (name : String) : Token → Bool
  | .word text => eqIgnoringCase text name
  | _ => false

/-- Whether the switch `name` is on, and the tokens without it. -/
def takeSwitch (name : String) (tokens : List Token) : Bool × List Token :=
  match takeFirst (isSwitch name) tokens with
  | some (_, rest) => (true, rest)
  | none => (false, tokens)

/-- The first quoted text, and the tokens without it. -/
def takeQuoted (tokens : List Token) : Option String × List Token :=
  match takeFirst Token.isQuoted tokens with
  | some (token, rest) => (some token.text, rest)
  | none => (none, tokens)

/-- The value of a flag or of a listed value: quoted text stays text, bare text is read as JSON and
stays text when it is none. -/
def readFlagValue (raw : String) (quoted : Bool) : Json :=
  if quoted then .string raw else (Json.parse? raw).getD (.string raw)

/-- The text between double quotes, when a text starts and ends with one. -/
def unquote? (text : List Char) : Option (List Char) :=
  (afterStart? ['"'] text).bind (beforeEnd? ['"'])

/-- One value of a parenthesised list. -/
def readListedValue (text : List Char) : Json :=
  match unquote? text with
  | some inner => readFlagValue (String.ofList inner) true
  | none => readFlagValue (String.ofList text) false

/-- The values of a parenthesised list, separated by bars or commas. -/
def readListedValues (text : String) : List Json :=
  (((piecesBy (fun c => c == '|' || c == ',') text.toList).map trim).filter (!·.isEmpty)).map
    readListedValue

/-- The values of the first parenthesised list, and the tokens without it. -/
def takeValues (tokens : List Token) : Option (List Json) × List Token :=
  match takeFirst Token.isParen tokens with
  | some (token, rest) => (some (readListedValues token.text), rest)
  | none => (none, tokens)

/-- The first flag with the given key, in any ASCII case. -/
def findFlag (flags : List Flag) (key : String) : Option Flag :=
  flags.find? fun flag => eqIgnoringCase flag.key key

/-- The value of a flag. -/
def flagValue (flags : List Flag) (key : String) : Option Json :=
  (findFlag flags key).map fun flag => readFlagValue flag.value flag.quoted

/-- Texts joined with single blanks. -/
def joinWords (texts : List String) : String :=
  String.ofList ([' '].intercalate (texts.map String.toList))

/-- The texts of tokens joined with single blanks. -/
def restText (tokens : List Token) : String := joinWords (tokens.map Token.text)

/-- The first quoted text, or all texts joined when nothing is quoted. -/
def descriptionText (tokens : List Token) : String :=
  match takeQuoted tokens with
  | (some text, _) => text
  | (none, _) => restText tokens

/-- The text of the first token, and the tokens after it. -/
def requireText (verb what : String) : List Token → Except AnnotationError (String × List Token)
  | [] => .error (.missingToken verb what)
  | token :: tokens => .ok (token.text, tokens)

/-- `v1.2` without its `v`; other words stay. -/
def dropVersionMark (version : String) : String :=
  match version.toList with
  | mark :: c :: rest =>
      if (mark == 'v' || mark == 'V') && c.isDigit then String.ofList (c :: rest) else version
  | _ => version

/-- Whether a word is the URL of a web page. -/
def isWebUrl (word : String) : Bool :=
  startsWith "http://".toList word.toList || startsWith "https://".toList word.toList

/-- Whether a word is a response status: `200`, `4XX` or `default`. -/
def isStatus (word : String) : Bool :=
  eqIgnoringCase word "default" ||
    match word.toList with
    | [first, second, third] =>
        let wild := fun c : Char => c.isDigit || c == 'x' || c == 'X'
        '1' ≤ first && first ≤ '5' && wild second && wild third
    | _ => false

namespace LineTokens

/-- Reads `!info`. The version is the second token when that is bare. -/
def info (line : LineTokens) (verb : String) : Except AnnotationError InfoLine := do
  let (title, rest) ← requireText verb "title" line.positional
  match rest with
  | token :: after =>
      if token.isBare then return ⟨title, dropVersionMark token.text, restText after⟩
      else return ⟨title, "", restText rest⟩
  | [] => return ⟨title, "", ""⟩

/-- Adds one token to a contact: angle brackets hold the address, a web URL is the URL, and the
first of the others is the name. -/
def addContact (contact : ContactLine) : Token → ContactLine
  | .angle email => { contact with email }
  | .word text =>
      if isWebUrl text then { contact with url := text }
      else if contact.name = "" then { contact with name := text }
      else contact
  | token => if contact.name = "" then { contact with name := token.text } else contact

/-- Reads `!contact`. -/
def contact (line : LineTokens) (verb : String) : Except AnnotationError ContactLine :=
  let found := line.positional.foldl addContact ⟨"", "", ""⟩
  if found = ⟨"", "", ""⟩ then .error (.missingToken verb "name, email or URL") else .ok found

/-- Reads `!license`. -/
def license (line : LineTokens) (verb : String) : Except AnnotationError LicenseLine := do
  let (name, rest) ← requireText verb "license name" line.positional
  return ⟨name, (rest.head?.map Token.text).getD ""⟩

/-- Reads a line of one required text and a description. -/
def textAndRest (line : LineTokens) (verb what : String) :
    Except AnnotationError (String × String) := do
  let (text, rest) ← requireText verb what line.positional
  return (text, restText rest)

/-- Reads `!link`. -/
def link (line : LineTokens) (verb : String) : Except AnnotationError LinkLine := do
  let (label, rest) ← requireText verb "link label" line.positional
  let (url, _) ← requireText verb "link URL" rest
  return ⟨label, url⟩

/-- Reads `!security`. -/
def security (line : LineTokens) (verb : String) : Except AnnotationError SecurityLine := do
  let (name, rest) ← requireText verb "scheme name" line.positional
  let (kind, rest) ← requireText verb "scheme kind" rest
  let (description, rest) := takeQuoted rest
  return {
    name, kind
    arguments := rest.map Token.text
    description := description.getD ""
    bearerFormat := (findFlag line.flags "bearerFormat").map Flag.value }

/-- Reads `!scope`. -/
def scope (line : LineTokens) (verb : String) : Except AnnotationError ScopeLine := do
  let (scheme, rest) ← requireText verb "security scheme name" line.positional
  let (name, rest) ← requireText verb "scope name" rest
  return ⟨scheme, name, restText rest⟩

/-- A bare first token, and the tokens after it. -/
def requireBare (verb what : String) : List Token → Except AnnotationError (String × List Token)
  | token :: tokens =>
      if token.isBare then .ok (token.text, tokens) else .error (.missingToken verb what)
  | [] => .error (.missingToken verb what)

/-- Reads a line whose verb is a method. -/
def route (line : LineTokens) (verb : String) (method : Method) :
    Except AnnotationError RouteLine := do
  let (deprecated, rest) := takeSwitch "deprecated" line.positional
  let (path, rest) ← requireBare verb "path" rest
  let (operationId, rest) ← match rest with
    | .arrow :: after => requireBare verb "operation id" after
    | rest => .ok ("", rest)
  return {
    method, path, operationId, summary := descriptionText rest, tags := line.tags, deprecated }

/-- The name and type word at the front of a parameter or field. -/
def nameAndType (verb what : String) :
    List Token → Except AnnotationError (String × Option String × List Token)
  | .typed name type :: tokens => .ok (name, some type, tokens)
  | .word name :: tokens => .ok (name, none, tokens)
  | _ => .error (.missingToken verb what)

/-- Reads `!query`, `!path` and `!header`. -/
def parameter (line : LineTokens) (verb : String) (location : Location) :
    Except AnnotationError ParameterLine := do
  let (required, rest) := takeSwitch "required" line.positional
  let (values, rest) := takeValues rest
  let (name, type, rest) ← nameAndType verb "parameter name" rest
  return {
    name, location, required, values
    type := type.getD "string"
    description := descriptionText rest
    default := flagValue line.flags "default"
    example? := flagValue line.flags "example" }

/-- Reads `!body`. -/
def body (line : LineTokens) (verb : String) : Except AnnotationError BodyLine :=
  let (required, rest) := takeSwitch "required" line.positional
  match rest with
  | token :: after =>
      if token.isQuoted then .error (.missingToken verb "schema")
      else .ok { schema := token.text, description := descriptionText after, required }
  | [] => .error (.missingToken verb "schema")

/-- The status at the front of a response line, and the tokens after it. -/
def takeStatus : List Token → Option String × List Token
  | .word text :: tokens =>
      if isStatus text then (some text, tokens) else (none, .word text :: tokens)
  | tokens => (none, tokens)

/-- The status of a response whose line gives none. -/
def defaultStatus : Outcome → String
  | .success => "200"
  | .failure => "default"

/-- The schema word of a response: empty parentheses are spelled out. -/
def schemaWord : Token → String
  | .paren "" => "()"
  | token => token.text

/-- Reads `!ok` and `!error`. -/
def response (line : LineTokens) (outcome : Outcome) : ResponseLine :=
  let (status, rest) := takeStatus line.positional
  let (quoted, rest) := takeQuoted rest
  let (schema, rest) := match rest with
    | token :: after => (schemaWord token, after)
    | [] => ("", [])
  { outcome, schema
    status := status.getD (defaultStatus outcome)
    description := quoted.getD (restText rest) }

/-- Reads `!secure`. -/
def secure (line : LineTokens) (verb : String) : Except AnnotationError (List String) :=
  match line.positional with
  | [] => .error (.missingToken verb "security scheme name")
  | tokens => .ok (tokens.map Token.text)

/-- Reads `!field`. -/
def field (line : LineTokens) (verb : String) : Except AnnotationError FieldLine := do
  let (required, rest) := takeSwitch "required" line.positional
  let (values, rest) := takeValues rest
  let (name, type, rest) ← nameAndType verb "field name" rest
  return {
    name, type, required, values
    description := descriptionText rest
    example? := flagValue line.flags "example" }

/-- Reads `!schema`. -/
def schema (line : LineTokens) (verb : String) : Except AnnotationError SchemaLine := do
  let (values, rest) := takeValues line.positional
  let (name, type, rest) ← nameAndType verb "schema name" rest
  let (type, rest) ← match type with
    | some type => .ok (type, rest)
    | none => requireText verb "schema type" rest
  return {
    name, type, values
    description := descriptionText rest
    format := (findFlag line.flags "format").map Flag.value
    example? := flagValue line.flags "example" }

/-- Reads the tokens of a line as its verb says; `word` is the verb in lower case. -/
def read (line : LineTokens) (word : String) : Verb → Except AnnotationError Annotation
  | .api => do return .api (← requireText word "version" line.positional).1
  | .info => do return .info (← line.info word)
  | .contact => do return .contact (← line.contact word)
  | .license => do return .license (← line.license word)
  | .terms => do return .terms (← requireText word "terms of service URL" line.positional).1
  | .server => do
      let (url, description) ← line.textAndRest word "server URL"
      return .server ⟨url, description⟩
  | .tag => do
      let (name, description) ← line.textAndRest word "tag name"
      return .tag ⟨name, description⟩
  | .docs => do
      let (url, description) ← line.textAndRest word "documentation URL"
      return .docs ⟨url, description⟩
  | .link => do return .link (← line.link word)
  | .security => do return .security (← line.security word)
  | .scope => do return .scope (← line.scope word)
  | .parameter location => do return .parameter (← line.parameter word location)
  | .body => do return .body (← line.body word)
  | .response outcome => .ok (.response (line.response outcome))
  | .secure => do return .secure (← line.secure word)
  | .model => .ok (.model (restText line.positional))
  | .field => do return .field (← line.field word)
  | .schema => do return .schema (← line.schema word)
  | .route method => do return .route (← line.route word method)

end LineTokens

/-- Reads one line: nothing when it is no annotation or its verb is unknown, an error when it is
malformed. -/
def parseLine (line : List Char) : Except AnnotationError (Option Annotation) :=
  match splitVerb line with
  | none => .ok none
  | some (verb, rest) =>
      let word := asciiLower (String.ofList verb)
      if Verb.isKnown word then do
        let tokens ← tokens rest
        match Verb.ofWord? word with
        | some verb => return some (← (LineTokens.ofTokens tokens).read word verb)
        | none => return none
      else .ok none

/-- The annotation of a line, when it has one. -/
def lineAnnotation? (line : List Char) : Option Annotation :=
  match parseLine line with
  | .ok annotation => annotation
  | .error _ => none

/-- The annotations of a text, in order. Prose and malformed lines give none. -/
def annotations (text : String) : List Annotation := (lines text.toList).filterMap lineAnnotation?

/-- Whether a line starts, blanks apart, with the annotation marker. -/
def isMarked (line : List Char) : Bool := (trimStart line).head? == some '!'

/-- A text without its marked lines, trimmed. -/
def prose (text : String) : String :=
  String.ofList (trim (joinLines ((lines text.toList).filter fun line => !isMarked line)))

end DocApi
