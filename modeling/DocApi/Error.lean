import DocApi.Document.Text

/-!
# Failures

What can go wrong with a whole file or a whole run. A malformed annotation or declaration is no
failure: it is left out where it stands.
-/

namespace DocApi

/-- Why a file or a run failed. -/
inductive Failure where
  /-- A file or directory cannot be read. -/
  | io (cause : String)
  /-- A file is no source text. -/
  | unparsable (file cause : String)
  | invalidArgument (what : String)
  /-- A document cannot be written. -/
  | unwritable (cause : String)
deriving DecidableEq, Repr

namespace Failure

/-- The wording of a failure. -/
def message : Failure → String
  | .io cause => "IO 错误: " ++ cause
  | .unparsable file cause => "解析错误 " ++ file ++ ": " ++ cause
  | .invalidArgument what => "无效参数: " ++ what
  | .unwritable cause => "序列化错误: " ++ cause

/-- Whether another failure is the cause. -/
def hasSource : Failure → Bool
  | .io _ => true
  | _ => false

/-- The failure to write a document in a format. -/
def ofFormat (format : Format) (cause : String) : Failure :=
  match format with
  | .json => .unwritable ("JSON 序列化错误: " ++ cause)
  | .yaml => .unwritable ("YAML 序列化错误: " ++ cause)

end Failure

end DocApi
