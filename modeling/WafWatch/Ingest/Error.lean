import WafWatch.Host.IoError

/-!
This module holds the errors of the log pipeline.
-/

namespace WafWatch

/--
Why the log pipeline cannot do something.
-/
inductive IngestError where
  /-- The log source cannot be read. -/
  | unavailable (source reason : String)
  /-- A setting is not acceptable. -/
  | setting (field reason : String)
  | io (error : IoError)
  deriving DecidableEq, Repr, Inhabited

def IngestError.message : IngestError → String
  | .unavailable source reason => s!"source unavailable: {source}: {reason}"
  | .setting field reason => s!"config error: {field}: {reason}"
  | .io error => s!"io error: {error.message}"

end WafWatch
