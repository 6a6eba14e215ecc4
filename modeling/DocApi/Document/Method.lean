import DocApi.Keyed
import DocApi.Text.Split

/-!
# Methods and parameter locations

The HTTP methods an operation can be bound to, and the places a parameter can stand in.
-/

namespace DocApi

/-- The HTTP methods that a path can answer. -/
inductive Method where
  | get | put | post | delete | options | head | patch | trace
deriving DecidableEq, Repr

namespace Method

/-- Every method with its name in lower case. -/
def table : Keyed Method :=
  [("get", .get), ("put", .put), ("post", .post), ("delete", .delete), ("options", .options),
    ("head", .head), ("patch", .patch), ("trace", .trace)]

/-- The method a word names, in any ASCII case. -/
def ofWord? (word : String) : Option Method := Keyed.at? table (asciiLower word)

/-- The name of a method in capitals. -/
def name : Method → String
  | .get => "GET"
  | .put => "PUT"
  | .post => "POST"
  | .delete => "DELETE"
  | .options => "OPTIONS"
  | .head => "HEAD"
  | .patch => "PATCH"
  | .trace => "TRACE"

end Method

/-- Where a parameter is given. -/
inductive Location where
  | query | path | header
deriving DecidableEq, Repr

namespace Location

/-- The word for a location in a document. -/
def word : Location → String
  | .query => "query"
  | .path => "path"
  | .header => "header"

/-- The location a document's word names. -/
def ofWord? (text : String) : Option Location :=
  [.query, .path, .header].find? fun location => location.word == text

end Location

end DocApi
