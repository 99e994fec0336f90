import WafWatch.Event.Severity
import WafWatch.Time.Timestamp

/-!
This module holds the security events that are derived from log lines.
-/

namespace WafWatch

/--
The identifier and the time that a new event gets when it is made.
-/
structure Stamp where
  id : String
  now : Time.Timestamp
  deriving DecidableEq, Repr, Inhabited

/--
A numbered supply of stamps, of which the first ones have been used.
-/
structure StampSupply where
  stamp : Nat → Stamp
  used : Nat := 0

namespace StampSupply

def next (supply : StampSupply) : Stamp :=
  supply.stamp supply.used

/--
The supply after some more stamps have been used.
-/
def skip (supply : StampSupply) (count : Nat) : StampSupply :=
  { supply with used := supply.used + count }

end StampSupply

/--
A blocked or reported request. The raw log line tells whether two events are the same.
-/
structure SecurityEvent where
  id : String
  timestamp : Time.Timestamp
  clientIp : String
  method : String
  url : String
  userAgent : String
  attackType : String
  ruleId : String
  message : String
  severity : Severity
  blocked : Bool
  rawLog : String
  deriving DecidableEq, Repr, Inhabited

namespace SecurityEvent

/--
An event of which only the raw log line is known.
-/
def ofRaw (stamp : Stamp) (rawLog : String) : SecurityEvent where
  id := stamp.id
  timestamp := stamp.now
  clientIp := ""
  method := ""
  url := ""
  userAgent := ""
  attackType := ""
  ruleId := ""
  message := ""
  severity := .unknown
  blocked := false
  rawLog := rawLog

def display (event : SecurityEvent) : String :=
  s!"[{event.severity.display}] {event.clientIp} {event.method} {event.url} rule={event.ruleId} blocked={event.blocked}"

end SecurityEvent

/--
The requests of one client.
-/
structure ClientCount where
  ip : String
  requests : Nat
  blocked : Nat
  deriving DecidableEq, Repr, Inhabited

/--
What is told about the stored events at one time. The attack types are in ascending order.
-/
structure Snapshot where
  totalRequests : Nat
  blockedRequests : Nat
  attacksByType : List (String × Nat)
  topIps : List ClientCount
  recentLogs : List SecurityEvent
  timestamp : Time.Timestamp
  deriving DecidableEq, Repr, Inhabited

def Snapshot.empty (now : Time.Timestamp) : Snapshot where
  totalRequests := 0
  blockedRequests := 0
  attacksByType := []
  topIps := []
  recentLogs := []
  timestamp := now

/--
An event that is made up to test the display, with no log line behind it unless one is given.
-/
structure TestEvent where
  clientIp : String
  method : String
  url : String
  userAgent : String
  attackType : String
  ruleId : String
  message : String
  severity : Severity
  blocked : Bool
  rawLog : Option String
  deriving DecidableEq, Repr, Inhabited

def TestEvent.blank : TestEvent where
  clientIp := ""
  method := ""
  url := ""
  userAgent := ""
  attackType := ""
  ruleId := ""
  message := ""
  severity := .unknown
  blocked := false
  rawLog := none

/--
The event that a test event stands for. Without a log line, one is made up from the identifier, so
that it differs from every other.
-/
def TestEvent.toEvent (input : TestEvent) (stamp : Stamp) : SecurityEvent where
  id := stamp.id
  timestamp := stamp.now
  clientIp := input.clientIp
  method := input.method
  url := input.url
  userAgent := input.userAgent
  attackType := input.attackType
  ruleId := input.ruleId
  message := input.message
  severity := input.severity
  blocked := input.blocked
  rawLog :=
    let given := input.rawLog.getD ""
    if given.isEmpty then
      s!"[test {stamp.id}] {input.clientIp} {input.method} {input.url} rule={input.ruleId} msg={input.message}"
    else given

end WafWatch
