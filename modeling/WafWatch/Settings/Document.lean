import WafWatch.Json.Value
import WafWatch.Settings.Basic
import WafWatch.Toml.Decoding

/-!
This module contains the fields of the settings as configuration documents name them.
-/

namespace WafWatch

open WafWatch.Toml

namespace GeneralSettings

def fields : List (RecordField GeneralSettings) := [
  .of "log_level" .text fun a s => { s with logLevel := a },
  .of "log_format" .text fun a s => { s with logFormat := a }]

def toValue (s : GeneralSettings) : Json.Value :=
  .ofMembers [("log_level", .ofString s.logLevel), ("log_format", .ofString s.logFormat)]

end GeneralSettings

namespace IngestSettings

def fields : List (RecordField IngestSettings) := [
  .of "enabled" .flag fun a s => { s with enabled := a },
  .of "source" .text fun a s => { s with source := a },
  .of "log_file" .text fun a s => { s with logFile := a },
  .of "command" .texts fun a s => { s with command := a },
  .of "command_timeout_secs" (.natural maxUInt64) fun a s => { s with commandTimeoutSecs := a },
  .of "poll_interval_secs" (.natural maxUInt64) fun a s => { s with pollIntervalSecs := a },
  .of "store_capacity" (.natural maxUInt64) fun a s => { s with storeCapacity := a },
  .of "demo_fallback" .flag fun a s => { s with demoFallback := a },
  .of "max_line_length" (.natural maxUInt64) fun a s => { s with maxLineLength := a }]

def toValue (s : IngestSettings) : Json.Value :=
  .ofMembers [
    ("enabled", .bool s.enabled),
    ("source", .ofString s.source),
    ("log_file", .ofString s.logFile),
    ("command", .ofStrings s.command),
    ("command_timeout_secs", .number s.commandTimeoutSecs),
    ("poll_interval_secs", .number s.pollIntervalSecs),
    ("store_capacity", .number s.storeCapacity),
    ("demo_fallback", .bool s.demoFallback),
    ("max_line_length", .number s.maxLineLength)]

end IngestSettings

namespace HubSettings

def fields : List (RecordField HubSettings) := [
  .of "enabled" .flag fun a s => { s with enabled := a },
  .of "bind_addr" .text fun a s => { s with bindAddr := a },
  .of "max_connections" (.natural maxUInt64) fun a s => { s with maxConnections := a },
  .of "queue_capacity" (.natural maxUInt64) fun a s => { s with queueCapacity := a },
  .of "stats_interval_secs" (.natural maxUInt64) fun a s => { s with statsIntervalSecs := a },
  .of "ping_interval_secs" (.natural maxUInt64) fun a s => { s with pingIntervalSecs := a },
  .of "read_timeout_secs" (.natural maxUInt64) fun a s => { s with readTimeoutSecs := a },
  .of "write_timeout_secs" (.natural maxUInt64) fun a s => { s with writeTimeoutSecs := a },
  .of "max_message_size" (.natural maxUInt64) fun a s => { s with maxMessageSize := a },
  .of "default_log_limit" (.natural maxUInt32) fun a s => { s with defaultLogLimit := a }]

def toValue (s : HubSettings) : Json.Value :=
  .ofMembers [
    ("enabled", .bool s.enabled),
    ("bind_addr", .ofString s.bindAddr),
    ("max_connections", .number s.maxConnections),
    ("queue_capacity", .number s.queueCapacity),
    ("stats_interval_secs", .number s.statsIntervalSecs),
    ("ping_interval_secs", .number s.pingIntervalSecs),
    ("read_timeout_secs", .number s.readTimeoutSecs),
    ("write_timeout_secs", .number s.writeTimeoutSecs),
    ("max_message_size", .number s.maxMessageSize),
    ("default_log_limit", .number s.defaultLogLimit)]

end HubSettings

namespace MetricsSettings

def fields : List (RecordField MetricsSettings) := [
  .of "enabled" .flag fun a s => { s with enabled := a },
  .of "listen_addr" .text fun a s => { s with listenAddr := a },
  .of "port" (.natural maxUInt16) fun a s => { s with port := a },
  .of "endpoint" .text fun a s => { s with endpoint := a }]

def toValue (s : MetricsSettings) : Json.Value :=
  .ofMembers [
    ("enabled", .bool s.enabled),
    ("listen_addr", .ofString s.listenAddr),
    ("port", .number s.port),
    ("endpoint", .ofString s.endpoint)]

end MetricsSettings

namespace Settings

def fields : List (RecordField Settings) := [
  .record "general" GeneralSettings.fields general fun a s => { s with general := a },
  .record "ingest" IngestSettings.fields ingest fun a s => { s with ingest := a },
  .record "hub" HubSettings.fields hub fun a s => { s with hub := a },
  .record "metrics" MetricsSettings.fields metrics fun a s => { s with metrics := a }]

def toValue (s : Settings) : Json.Value :=
  .ofMembers [
    ("general", s.general.toValue),
    ("ingest", s.ingest.toValue),
    ("hub", s.hub.toValue),
    ("metrics", s.metrics.toValue)]

end Settings

end WafWatch
