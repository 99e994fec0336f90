import WafWatch.Event.Json

/-!
This module holds the messages that subscribers are sent, and their form on the wire.
-/

namespace WafWatch

open WafWatch.Json

/--
What a subscriber is told.
-/
inductive ServerMessage where
  | welcome (message : String)
  /-- The snapshot that a subscriber gets at the beginning or on request. -/
  | stats (snapshot : Snapshot)
  /-- The snapshot that all subscribers get from time to time. -/
  | statsUpdate (snapshot : Snapshot)
  | newLog (event : SecurityEvent)
  | logs (events : List SecurityEvent)
  | error (message : String)
  deriving DecidableEq, Repr, Inhabited

namespace ServerMessage

def welcomeText : String := "Connected to WAF Real-time Dashboard"

def kind : ServerMessage → String
  | .welcome _ => "welcome"
  | .stats _ => "stats"
  | .statsUpdate _ => "stats_update"
  | .newLog _ => "new_log"
  | .logs _ => "logs"
  | .error _ => "error"

def data : ServerMessage → Value
  | .welcome message => .ofMembers [("message", .ofString message)]
  | .stats snapshot => snapshot.toValue
  | .statsUpdate snapshot => snapshot.toValue
  | .newLog event => event.toValue
  | .logs events => .list (events.map SecurityEvent.toValue)
  | .error message => .ofMembers [("message", .ofString message)]

end ServerMessage

/--
A message as it is sent, with the time at which it was put into its envelope.
-/
structure Envelope where
  message : ServerMessage
  timestamp : Time.Timestamp
  deriving DecidableEq, Repr, Inhabited

namespace Envelope

def toValue (envelope : Envelope) : Value :=
  .ofMembers [
    ("type", .ofString envelope.message.kind),
    ("data", envelope.message.data),
    ("timestamp", timeValue envelope.timestamp)]

def encode (envelope : Envelope) : List Char :=
  envelope.toValue.render

end Envelope

end WafWatch
