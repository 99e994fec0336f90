import WafWatch.Json.Value
import WafWatch.Live.Error
import WafWatch.Net.Address
import WafWatch.Settings.Validation
import WafWatch.Time.Span

/-!
This module contains the settings that a live feed runs on.
-/

namespace WafWatch

/--
The settings of a live feed.
-/
structure LiveSettings where
  bindAddress : Net.SocketAddress
  maxConnections : Nat := 1024
  /-- The number of messages that wait for one subscriber at most. -/
  queueCapacity : Nat := 256
  /-- The time between two snapshots that all subscribers get. -/
  statsInterval : Time.Span := .ofSeconds 10
  /-- The time between two pings. -/
  pingInterval : Time.Span := .ofSeconds 54
  /-- The time within which a subscriber has to answer a ping. -/
  readTimeout : Time.Span := .ofSeconds 60
  /-- The time that sending one message may take. -/
  writeTimeout : Time.Span := .ofSeconds 10
  /-- The number of octets that a request may have. -/
  maxMessageSize : Nat := 512
  /-- The number of events that a request gets which does not ask for a number. -/
  defaultLogLimit : Int := 50
  deriving DecidableEq, Repr, Inhabited

namespace LiveSettings

/--
The checks that the settings have to pass. A subscriber's queue has to have room for the two messages
that it gets at the beginning.
-/
def checks (s : LiveSettings) : List Check := [
  ⟨"queue_capacity", "must be at least 2", 2 ≤ s.queueCapacity⟩,
  .positive "max_connections" s.maxConnections,
  .positive "max_message_size" s.maxMessageSize,
  ⟨"intervals", "must be greater than 0",
    s.statsInterval.millis != 0 && s.writeTimeout.millis != 0 && s.pingInterval.millis != 0⟩,
  ⟨"ping_interval", "must be shorter than read_timeout",
    s.pingInterval.millis < s.readTimeout.millis⟩]

def validate (s : LiveSettings) : Except LiveError Unit :=
  match Check.firstFailure s.checks with
  | some check => .error (.setting check.field check.demand)
  | none => .ok ()

def readAddress (text : String) : Except LiveError Net.SocketAddress :=
  match Net.SocketAddress.read? text.toList with
  | some address => .ok address
  | none =>
    .error (.setting "bind_addr"
      ("invalid socket address \x27" ++ text ++ "\x27: " ++ Net.SocketAddress.complaint))

def ofHub (s : HubSettings) : Except LiveError LiveSettings := do
  let settings : LiveSettings :=
    { bindAddress := ← readAddress s.bindAddr
      maxConnections := s.maxConnections
      queueCapacity := s.queueCapacity
      statsInterval := .ofSeconds s.statsIntervalSecs
      pingInterval := .ofSeconds s.pingIntervalSecs
      readTimeout := .ofSeconds s.readTimeoutSecs
      writeTimeout := .ofSeconds s.writeTimeoutSecs
      maxMessageSize := s.maxMessageSize
      defaultLogLimit := s.defaultLogLimit }
  settings.validate
  pure settings

/--
The JSON form of the settings, with all times in whole seconds.
-/
def toValue (s : LiveSettings) : Json.Value :=
  let seconds (span : Time.Span) : Json.Value := .number (span.millis / 1000)
  .ofMembers [
    ("bind_addr", .text s.bindAddress.render),
    ("max_connections", .number s.maxConnections),
    ("queue_capacity", .number s.queueCapacity),
    ("stats_interval_secs", seconds s.statsInterval),
    ("ping_interval_secs", seconds s.pingInterval),
    ("read_timeout_secs", seconds s.readTimeout),
    ("write_timeout_secs", seconds s.writeTimeout),
    ("max_message_size", .number s.maxMessageSize),
    ("default_log_limit", .number s.defaultLogLimit)]

end LiveSettings

end WafWatch
