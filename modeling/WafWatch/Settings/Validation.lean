import WafWatch.Service.Error
import WafWatch.Settings.Basic

/-!
This module contains the checks that settings have to pass. They are made in a fixed order, and the
first one that fails is reported. Parts that are not enabled are not checked.
-/

namespace WafWatch

/--
A check: the field that it is about, what is demanded of the field, and whether that is so.
-/
structure Check where
  field : String
  demand : String
  holds : Bool
  deriving DecidableEq, Repr, Inhabited

namespace Check

def oneOf (field : String) (words : List String) (word : String) : Check :=
  ⟨field, "must be one of: " ++ ", ".intercalate words, words.contains word⟩

def positive (field : String) (n : Nat) : Check :=
  ⟨field, "must be greater than 0", n != 0⟩

def upTo (field : String) (limit n : Nat) : Check :=
  ⟨field, s!"must be 1-{limit}", 1 ≤ n && n ≤ limit⟩

def firstFailure (checks : List Check) : Option Check :=
  checks.find? (!·.holds)

end Check

def logLevels : List String := ["trace", "debug", "info", "warn", "error"]

def logFormats : List String := ["json", "pretty"]

def sourceNames : List String := ["file", "command", "demo"]

def maxPollIntervalSecs : Nat := 3600

def maxStoreCapacity : Nat := 1000000

def GeneralSettings.checks (s : GeneralSettings) : List Check := [
  .oneOf "general.log_level" logLevels s.logLevel,
  .oneOf "general.log_format" logFormats s.logFormat]

def IngestSettings.checks (s : IngestSettings) : List Check := [
  .oneOf "ingest.source" sourceNames s.source,
  ⟨"ingest.log_file", "log_file must not be empty when source is \x27file\x27",
    !(s.source == "file" && s.logFile.isEmpty)⟩,
  ⟨"ingest.command", "command must not be empty when source is \x27command\x27",
    !(s.source == "command" && s.command.isEmpty)⟩,
  .upTo "ingest.poll_interval_secs" maxPollIntervalSecs s.pollIntervalSecs,
  .upTo "ingest.store_capacity" maxStoreCapacity s.storeCapacity,
  .positive "ingest.command_timeout_secs" s.commandTimeoutSecs,
  .positive "ingest.max_line_length" s.maxLineLength]

def HubSettings.checks (s : HubSettings) : List Check := [
  ⟨"hub.bind_addr", "bind address must not be empty", !s.bindAddr.isEmpty⟩,
  .positive "hub.max_connections" s.maxConnections,
  .positive "hub.queue_capacity" s.queueCapacity,
  .positive "hub.stats_interval_secs" s.statsIntervalSecs,
  .positive "hub.ping_interval_secs" s.pingIntervalSecs,
  .positive "hub.read_timeout_secs" s.readTimeoutSecs,
  .positive "hub.write_timeout_secs" s.writeTimeoutSecs,
  .positive "hub.max_message_size" s.maxMessageSize,
  .positive "hub.default_log_limit" s.defaultLogLimit,
  ⟨"hub.ping_interval_secs", "must be less than hub.read_timeout_secs",
    s.pingIntervalSecs < s.readTimeoutSecs⟩]

def MetricsSettings.checks (s : MetricsSettings) : List Check := [
  ⟨"metrics.port", "port must be non-zero when metrics are enabled", s.port != 0⟩]

namespace Settings

/--
The checks of all parts that are enabled.
-/
def checks (s : Settings) : List Check :=
  s.general.checks ++
    (if s.ingest.enabled then s.ingest.checks else []) ++
    (if s.hub.enabled then s.hub.checks else []) ++
    (if s.metrics.enabled then s.metrics.checks else [])

def validate (s : Settings) : Except ServiceError Unit :=
  match Check.firstFailure s.checks with
  | some check => .error (.badValue check.field check.demand)
  | none => .ok ()

end Settings

end WafWatch
