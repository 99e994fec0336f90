/-!
This module contains the formats of the log.
-/

namespace WafWatch

/--
A format of the log.
-/
inductive LogFormat where
  /-- One JSON object in a line. -/
  | json
  | pretty
  deriving DecidableEq, Repr, Inhabited

/--
A word that names no format of the log.
-/
structure UnknownLogFormat where
  word : String
  deriving DecidableEq, Repr, Inhabited

def UnknownLogFormat.message (error : UnknownLogFormat) : String :=
  "unknown log format \x27" ++ error.word ++ "\x27, expected \x27json\x27 or \x27pretty\x27"

def LogFormat.read (word : String) : Except UnknownLogFormat LogFormat :=
  if word = "json" then .ok .json
  else if word = "pretty" then .ok .pretty
  else .error ⟨word⟩

end WafWatch
