import DocApi.Document.Json
import DocApi.Yaml.Printer

/-!
# Interface descriptions as text

A description is written in one of two formats, which hold the same members in the same order.
-/

namespace DocApi

/-- The formats of a written description. -/
inductive Format where
  | yaml | json
deriving DecidableEq, Repr

/-- The text of a description. -/
def Document.render (document : Document) : Format → String
  | .yaml => Yaml.render document.toJson
  | .json => document.toJson.render

end DocApi
