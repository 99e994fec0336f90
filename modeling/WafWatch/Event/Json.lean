import WafWatch.Event.Basic
import WafWatch.Json.Value
import WafWatch.Time.Reading

/-!
This module contains the JSON form of events, test events and snapshots.
-/

namespace WafWatch

open WafWatch.Json

def timeValue (t : Time.Timestamp) : Value :=
  .text t.render

def decodeTime (node : Node) : Decoded Time.Timestamp := do
  let chars ← node.textAs "an RFC 3339 formatted date and time string"
  match Time.readRecord? chars with
  | some t => pure t
  | none => throw .noTime

/-! ### Events -/

def SecurityEvent.toValue (event : SecurityEvent) : Value :=
  .ofMembers [
    ("id", .ofString event.id),
    ("timestamp", timeValue event.timestamp),
    ("client_ip", .ofString event.clientIp),
    ("method", .ofString event.method),
    ("url", .ofString event.url),
    ("user_agent", .ofString event.userAgent),
    ("attack_type", .ofString event.attackType),
    ("rule_id", .ofString event.ruleId),
    ("message", .ofString event.message),
    ("severity", .ofString event.severity.name),
    ("blocked", .bool event.blocked),
    ("raw_log", .ofString event.rawLog)]

def SecurityEvent.fieldNames : List String :=
  ["id", "timestamp", "client_ip", "method", "url", "user_agent", "attack_type", "rule_id",
    "message", "severity", "blocked", "raw_log"]

/--
An event of which some fields have been decoded.
-/
structure EventDraft where
  id : Option String := none
  timestamp : Option Time.Timestamp := none
  clientIp : Option String := none
  method : Option String := none
  url : Option String := none
  userAgent : Option String := none
  attackType : Option String := none
  ruleId : Option String := none
  message : Option String := none
  severity : Option Severity := none
  blocked : Option Bool := none
  rawLog : Option String := none

def EventDraft.step (draft : EventDraft) (name : String) (node : Node) : Decoded EventDraft := do
  match name with
  | "id" => pure { draft with id := ← fill name draft.id Node.string node }
  | "timestamp" => pure { draft with timestamp := ← fill name draft.timestamp decodeTime node }
  | "client_ip" => pure { draft with clientIp := ← fill name draft.clientIp Node.string node }
  | "method" => pure { draft with method := ← fill name draft.method Node.string node }
  | "url" => pure { draft with url := ← fill name draft.url Node.string node }
  | "user_agent" => pure { draft with userAgent := ← fill name draft.userAgent Node.string node }
  | "attack_type" => pure { draft with attackType := ← fill name draft.attackType Node.string node }
  | "rule_id" => pure { draft with ruleId := ← fill name draft.ruleId Node.string node }
  | "message" => pure { draft with message := ← fill name draft.message Node.string node }
  | "severity" => pure { draft with severity := ← fill name draft.severity Severity.decode node }
  | "blocked" => pure { draft with blocked := ← fill name draft.blocked Node.boolean node }
  | "raw_log" => pure { draft with rawLog := ← fill name draft.rawLog Node.string node }
  | _ => pure draft

def EventDraft.finish (draft : EventDraft) : Decoded SecurityEvent := do
  pure {
    id := ← require "id" draft.id
    timestamp := ← require "timestamp" draft.timestamp
    clientIp := ← require "client_ip" draft.clientIp
    method := ← require "method" draft.method
    url := ← require "url" draft.url
    userAgent := ← require "user_agent" draft.userAgent
    attackType := ← require "attack_type" draft.attackType
    ruleId := ← require "rule_id" draft.ruleId
    message := ← require "message" draft.message
    severity := ← require "severity" draft.severity
    blocked := ← require "blocked" draft.blocked
    rawLog := ← require "raw_log" draft.rawLog }

def SecurityEvent.decode (node : Node) : Decoded SecurityEvent := do
  let draft ← node.fields "SecurityEvent" fieldNames EventDraft.step tooFew {}
  draft.finish

/-! ### Test events -/

def TestEvent.toValue (input : TestEvent) : Value :=
  .ofMembers [
    ("client_ip", .ofString input.clientIp),
    ("method", .ofString input.method),
    ("url", .ofString input.url),
    ("user_agent", .ofString input.userAgent),
    ("attack_type", .ofString input.attackType),
    ("rule_id", .ofString input.ruleId),
    ("message", .ofString input.message),
    ("severity", .ofString input.severity.name),
    ("blocked", .bool input.blocked),
    ("raw_log", match input.rawLog with
      | some raw => .ofString raw
      | none => .null)]

def TestEvent.fieldNames : List String :=
  ["client_ip", "method", "url", "user_agent", "attack_type", "rule_id", "message", "severity",
    "blocked", "raw_log"]

/--
A test event of which some fields have been decoded.
-/
structure TestEventDraft where
  clientIp : Option String := none
  method : Option String := none
  url : Option String := none
  userAgent : Option String := none
  attackType : Option String := none
  ruleId : Option String := none
  message : Option String := none
  severity : Option Severity := none
  blocked : Option Bool := none
  rawLog : Option (Option String) := none

def TestEventDraft.step (draft : TestEventDraft) (name : String) (node : Node) :
    Decoded TestEventDraft := do
  match name with
  | "client_ip" => pure { draft with clientIp := ← fill name draft.clientIp Node.string node }
  | "method" => pure { draft with method := ← fill name draft.method Node.string node }
  | "url" => pure { draft with url := ← fill name draft.url Node.string node }
  | "user_agent" => pure { draft with userAgent := ← fill name draft.userAgent Node.string node }
  | "attack_type" => pure { draft with attackType := ← fill name draft.attackType Node.string node }
  | "rule_id" => pure { draft with ruleId := ← fill name draft.ruleId Node.string node }
  | "message" => pure { draft with message := ← fill name draft.message Node.string node }
  | "severity" => pure { draft with severity := ← fill name draft.severity Severity.decode node }
  | "blocked" => pure { draft with blocked := ← fill name draft.blocked Node.boolean node }
  | "raw_log" => pure { draft with rawLog := ← fill name draft.rawLog Node.optionalString node }
  | _ => pure draft

/--
The test event of a draft, where a field that has not been decoded is empty.
-/
def TestEventDraft.finish (draft : TestEventDraft) : TestEvent where
  clientIp := draft.clientIp.getD TestEvent.blank.clientIp
  method := draft.method.getD TestEvent.blank.method
  url := draft.url.getD TestEvent.blank.url
  userAgent := draft.userAgent.getD TestEvent.blank.userAgent
  attackType := draft.attackType.getD TestEvent.blank.attackType
  ruleId := draft.ruleId.getD TestEvent.blank.ruleId
  message := draft.message.getD TestEvent.blank.message
  severity := draft.severity.getD TestEvent.blank.severity
  blocked := draft.blocked.getD TestEvent.blank.blocked
  rawLog := draft.rawLog.getD TestEvent.blank.rawLog

def TestEvent.decode (node : Node) : Decoded TestEvent :=
  (node.fields "TestEvent" fieldNames TestEventDraft.step pure {}).map TestEventDraft.finish

/-! ### Snapshots -/

def ClientCount.toValue (count : ClientCount) : Value :=
  .ofMembers [
    ("ip", .ofString count.ip),
    ("requests", .number count.requests),
    ("blocked", .number count.blocked)]

/--
The requests of a client of which some fields have been decoded.
-/
structure ClientCountDraft where
  ip : Option String := none
  requests : Option Nat := none
  blocked : Option Nat := none

def ClientCountDraft.step (draft : ClientCountDraft) (name : String) (node : Node) :
    Decoded ClientCountDraft := do
  match name with
  | "ip" => pure { draft with ip := ← fill name draft.ip Node.string node }
  | "requests" => pure { draft with requests := ← fill name draft.requests (Node.word "u64") node }
  | "blocked" => pure { draft with blocked := ← fill name draft.blocked (Node.word "u64") node }
  | _ => pure draft

def ClientCount.decode (node : Node) : Decoded ClientCount := do
  let draft ← node.fields "IpStat" ["ip", "requests", "blocked"] ClientCountDraft.step tooFew {}
  pure {
    ip := ← require "ip" draft.ip
    requests := ← require "requests" draft.requests
    blocked := ← require "blocked" draft.blocked }

/--
Put a number under a name, in ascending order of names; a number that was there is replaced.
-/
def putCount (name : String) (n : Nat) : List (String × Nat) → List (String × Nat)
  | [] => [(name, n)]
  | (other, m) :: rest =>
    if name == other then (name, n) :: rest
    else if name < other then (name, n) :: (other, m) :: rest
    else (other, m) :: putCount name n rest

def decodeCounts (tail : Tail) :
    List (String × Nat) → List (Except Fault (List Char) × Node) → Decoded (List (String × Nat))
  | counts, [] =>
    match tail.fault? with
    | some fault => .error (.fault fault)
    | none => .ok counts
  | counts, (key, value) :: rest => do
    let chars ← key.mapError .fault
    let n ← value.word "u64"
    decodeCounts tail (putCount (String.ofList chars) n counts) rest

def decodeCountRecord : Node → Decoded (List (String × Nat))
  | .record members tail => decodeCounts tail [] members
  | node => .error (node.mismatch "a map")

def Snapshot.toValue (snapshot : Snapshot) : Value :=
  .ofMembers [
    ("total_requests", .number snapshot.totalRequests),
    ("blocked_requests", .number snapshot.blockedRequests),
    ("attacks_by_type", .ofMembers (snapshot.attacksByType.map fun (name, n) => (name, .number n))),
    ("top_ips", .list (snapshot.topIps.map ClientCount.toValue)),
    ("recent_logs", .list (snapshot.recentLogs.map SecurityEvent.toValue)),
    ("timestamp", timeValue snapshot.timestamp)]

/--
A snapshot of which some fields have been decoded.
-/
structure SnapshotDraft where
  totalRequests : Option Nat := none
  blockedRequests : Option Nat := none
  attacksByType : Option (List (String × Nat)) := none
  topIps : Option (List ClientCount) := none
  recentLogs : Option (List SecurityEvent) := none
  timestamp : Option Time.Timestamp := none

def SnapshotDraft.step (draft : SnapshotDraft) (name : String) (node : Node) :
    Decoded SnapshotDraft := do
  match name with
  | "total_requests" =>
    pure { draft with totalRequests := ← fill name draft.totalRequests (Node.word "u64") node }
  | "blocked_requests" =>
    pure { draft with blockedRequests := ← fill name draft.blockedRequests (Node.word "u64") node }
  | "attacks_by_type" =>
    pure { draft with attacksByType := ← fill name draft.attacksByType decodeCountRecord node }
  | "top_ips" =>
    pure { draft with topIps := ← fill name draft.topIps (Node.listOf ClientCount.decode) node }
  | "recent_logs" =>
    pure { draft with
      recentLogs := ← fill name draft.recentLogs (Node.listOf SecurityEvent.decode) node }
  | "timestamp" => pure { draft with timestamp := ← fill name draft.timestamp decodeTime node }
  | _ => pure draft

def Snapshot.decode (node : Node) : Decoded Snapshot := do
  let draft ← node.fields "StatsSnapshot"
    ["total_requests", "blocked_requests", "attacks_by_type", "top_ips", "recent_logs",
      "timestamp"] SnapshotDraft.step tooFew {}
  pure {
    totalRequests := ← require "total_requests" draft.totalRequests
    blockedRequests := ← require "blocked_requests" draft.blockedRequests
    attacksByType := ← require "attacks_by_type" draft.attacksByType
    topIps := ← require "top_ips" draft.topIps
    recentLogs := ← require "recent_logs" draft.recentLogs
    timestamp := ← require "timestamp" draft.timestamp }

end WafWatch
