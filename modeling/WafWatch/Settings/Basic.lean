/-!
This module holds the settings of the daemon, one record for each of its parts, and their defaults.
-/

namespace WafWatch

/--
The settings of the whole daemon.
-/
structure GeneralSettings where
  logLevel : String := "info"
  logFormat : String := "json"
  deriving DecidableEq, Repr, Inhabited

/--
The settings of the ingestion of log lines.
-/
structure IngestSettings where
  enabled : Bool := true
  source : String := "file"
  logFile : String := "/var/log/nginx/modsec_audit.log"
  command : List String :=
    ["kubectl", "logs", "-n", "ingress-nginx", "deployment/ingress-nginx-controller", "--since=10s"]
  commandTimeoutSecs : Nat := 15
  pollIntervalSecs : Nat := 5
  storeCapacity : Nat := 1000
  demoFallback : Bool := false
  maxLineLength : Nat := 64 * 1024
  deriving DecidableEq, Repr, Inhabited

/--
The settings of the hub that serves the subscribers.
-/
structure HubSettings where
  enabled : Bool := true
  bindAddr : String := "0.0.0.0:8081"
  maxConnections : Nat := 1024
  queueCapacity : Nat := 256
  statsIntervalSecs : Nat := 10
  pingIntervalSecs : Nat := 54
  readTimeoutSecs : Nat := 60
  writeTimeoutSecs : Nat := 10
  maxMessageSize : Nat := 512
  defaultLogLimit : Nat := 50
  deriving DecidableEq, Repr, Inhabited

/--
The settings of the endpoint that serves the metrics.
-/
structure MetricsSettings where
  enabled : Bool := false
  listenAddr : String := "127.0.0.1"
  port : Nat := 9100
  endpoint : String := "/metrics"
  deriving DecidableEq, Repr, Inhabited

/--
All settings.
-/
structure Settings where
  general : GeneralSettings := {}
  ingest : IngestSettings := {}
  hub : HubSettings := {}
  metrics : MetricsSettings := {}
  deriving DecidableEq, Repr, Inhabited

/-! ### Greatest values of the fields -/

def maxUInt16 : Nat := UInt16.size - 1

def maxUInt32 : Nat := UInt32.size - 1

def maxUInt64 : Nat := UInt64.size - 1

end WafWatch
