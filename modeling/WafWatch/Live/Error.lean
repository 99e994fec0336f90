import WafWatch.Host.IoError

/-!
This module holds the errors of the live feed.
-/

namespace WafWatch

/--
Why the live feed cannot do something.
-/
inductive LiveError where
  /-- A setting is not acceptable. -/
  | setting (field reason : String)
  /-- The address to listen at cannot be had. -/
  | bind (address : String) (error : IoError)
  | hubClosed
  | mailboxFull
  | transport (reason : String)
  | encode (reason : String)
  | io (error : IoError)
  deriving DecidableEq, Repr, Inhabited

def LiveError.message : LiveError → String
  | .setting field reason => s!"config error: {field}: {reason}"
  | .bind address error => s!"failed to bind {address}: {error.message}"
  | .hubClosed => "broadcast hub is not running"
  | .mailboxFull => "broadcast hub mailbox is full"
  | .transport reason => s!"transport error: {reason}"
  | .encode reason => s!"encode error: {reason}"
  | .io error => s!"io error: {error.message}"

end WafWatch
