import WafWatch.Live.Hub
import WafWatch.Text.Utf8

/-!
This module contains the reading side of a session: what each frame that comes from the subscriber leads
to. The text in which the JSON library says why a text is no request is taken as it is.
-/

namespace WafWatch

/--
What comes from a subscriber.
-/
inductive Frame where
  | text (text : String)
  /-- The answer to a ping. -/
  | pong
  | close
  | other
  /-- The connection failed. -/
  | failure
  /-- The connection ended. -/
  | ended
  deriving DecidableEq, Repr, Inhabited

/--
Why a session ends.
-/
inductive EndReason where
  | cancelled
  | deadline
  | connectionClosed
  | readError
  | clientClosed
  | tooLarge
  | hubClosed
  deriving DecidableEq, Repr, Inhabited

/--
What a frame leads to.
-/
inductive Reaction where
  | nothing
  /-- The deadline for the next answer to a ping is set anew. -/
  | refresh
  | send (command : HubCommand)
  | stop (reason : EndReason)
  deriving DecidableEq, Repr, Inhabited

namespace Reaction

/--
What stands in front of the reason for which a request is rejected.
-/
def rejectionLead : String := "invalid request: "

/--
The command for a text, where `wording` is what the JSON library says about a text that is no request.
-/
def commandOf (wording : String → String) (id : Nat) (text : String) : HubCommand :=
  match ClientRequest.parse text with
  | .ok request => .request id request
  | .error _ => .reject id (rejectionLead ++ wording text)

/--
What a frame from the subscriber of an id leads to, where texts may have up to `limit` octets.
-/
def ofFrame (wording : String → String) (id limit : Nat) : Frame → Reaction
  | .text text =>
    if limit < text.utf8ByteSize then .stop .tooLarge else .send (commandOf wording id text)
  | .pong => .refresh
  | .close => .stop .clientClosed
  | .other => .nothing
  | .failure => .stop .readError
  | .ended => .stop .connectionClosed

end Reaction

end WafWatch
