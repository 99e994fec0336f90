import WafWatch.Settings.Basic
import WafWatch.Text.Blank
import WafWatch.Text.Numeral
import WafWatch.Text.Utf8

/-!
This module contains the variables of the environment that override settings. A variable whose value is
not text, or does not mean anything for its setting, overrides nothing.
-/

namespace WafWatch

abbrev Environment := List (String × List UInt8)

def Environment.text? (environment : Environment) (name : String) : Option (List Char) :=
  (environment.lookup name).bind Text.decode?

/-! ### Meanings of values -/

def readSomeText? (s : List Char) : Option String :=
  if s.isEmpty then none else some (String.ofList s)

def readFlag? (s : List Char) : Option Bool :=
  if s == "true".toList then some true
  else if s == "false".toList then some false
  else none

/--
The words of a command, of which there has to be one.
-/
def readCommand? (s : List Char) : Option (List String) :=
  match Text.words s with
  | [] => none
  | words => some (words.map String.ofList)

/-! ### Overrides -/

/--
A variable that overrides a setting: its name, and the record with the setting that a text means.
-/
structure Override (σ : Type) where
  name : String
  apply : List Char → σ → Option σ

def Override.of {σ α : Type} (name : String) (read : List Char → Option α) (set : α → σ → σ) :
    Override σ where
  name := name
  apply text record := (read text).map fun a => set a record

def Override.run {σ : Type} (environment : Environment) (record : σ) (override : Override σ) : σ :=
  ((environment.text? override.name).bind fun text => override.apply text record).getD record

def GeneralSettings.overrides : List (Override GeneralSettings) := [
  .of "WAFSCOPE_GENERAL_LOG_LEVEL" readSomeText? fun a s => { s with logLevel := a },
  .of "WAFSCOPE_GENERAL_LOG_FORMAT" readSomeText? fun a s => { s with logFormat := a }]

/--
The variables of the ingestion. The log file has two; the second one prevails.
-/
def IngestSettings.overrides : List (Override IngestSettings) := [
  .of "WAFSCOPE_INGEST_ENABLED" readFlag? fun a s => { s with enabled := a },
  .of "WAFSCOPE_INGEST_SOURCE" readSomeText? fun a s => { s with source := a },
  .of "MODSECURITY_LOG_FILE" readSomeText? fun a s => { s with logFile := a },
  .of "WAFSCOPE_INGEST_LOG_FILE" readSomeText? fun a s => { s with logFile := a },
  .of "WAFSCOPE_INGEST_COMMAND" readCommand? fun a s => { s with command := a },
  .of "WAFSCOPE_INGEST_COMMAND_TIMEOUT_SECS" (Text.readNumeral? maxUInt64)
    fun a s => { s with commandTimeoutSecs := a },
  .of "WAFSCOPE_INGEST_POLL_INTERVAL_SECS" (Text.readNumeral? maxUInt64)
    fun a s => { s with pollIntervalSecs := a },
  .of "WAFSCOPE_INGEST_STORE_CAPACITY" (Text.readNumeral? maxUInt64)
    fun a s => { s with storeCapacity := a },
  .of "WAFSCOPE_INGEST_DEMO_FALLBACK" readFlag? fun a s => { s with demoFallback := a },
  .of "WAFSCOPE_INGEST_MAX_LINE_LENGTH" (Text.readNumeral? maxUInt64)
    fun a s => { s with maxLineLength := a }]

def HubSettings.overrides : List (Override HubSettings) := [
  .of "WAFSCOPE_HUB_ENABLED" readFlag? fun a s => { s with enabled := a },
  .of "WAFSCOPE_HUB_BIND_ADDR" readSomeText? fun a s => { s with bindAddr := a },
  .of "WAFSCOPE_HUB_MAX_CONNECTIONS" (Text.readNumeral? maxUInt64)
    fun a s => { s with maxConnections := a },
  .of "WAFSCOPE_HUB_QUEUE_CAPACITY" (Text.readNumeral? maxUInt64)
    fun a s => { s with queueCapacity := a },
  .of "WAFSCOPE_HUB_STATS_INTERVAL_SECS" (Text.readNumeral? maxUInt64)
    fun a s => { s with statsIntervalSecs := a },
  .of "WAFSCOPE_HUB_PING_INTERVAL_SECS" (Text.readNumeral? maxUInt64)
    fun a s => { s with pingIntervalSecs := a },
  .of "WAFSCOPE_HUB_READ_TIMEOUT_SECS" (Text.readNumeral? maxUInt64)
    fun a s => { s with readTimeoutSecs := a },
  .of "WAFSCOPE_HUB_WRITE_TIMEOUT_SECS" (Text.readNumeral? maxUInt64)
    fun a s => { s with writeTimeoutSecs := a },
  .of "WAFSCOPE_HUB_MAX_MESSAGE_SIZE" (Text.readNumeral? maxUInt64)
    fun a s => { s with maxMessageSize := a },
  .of "WAFSCOPE_HUB_DEFAULT_LOG_LIMIT" (Text.readNumeral? maxUInt32)
    fun a s => { s with defaultLogLimit := a }]

/--
The variables of the metrics endpoint. Its path has none.
-/
def MetricsSettings.overrides : List (Override MetricsSettings) := [
  .of "WAFSCOPE_METRICS_ENABLED" readFlag? fun a s => { s with enabled := a },
  .of "WAFSCOPE_METRICS_LISTEN_ADDR" readSomeText? fun a s => { s with listenAddr := a },
  .of "WAFSCOPE_METRICS_PORT" (Text.readNumeral? maxUInt16) fun a s => { s with port := a }]

def overrideNames : List String :=
  GeneralSettings.overrides.map (·.name) ++ IngestSettings.overrides.map (·.name) ++
    HubSettings.overrides.map (·.name) ++ MetricsSettings.overrides.map (·.name)

def Settings.override (settings : Settings) (environment : Environment) : Settings where
  general := GeneralSettings.overrides.foldl (Override.run environment) settings.general
  ingest := IngestSettings.overrides.foldl (Override.run environment) settings.ingest
  hub := HubSettings.overrides.foldl (Override.run environment) settings.hub
  metrics := MetricsSettings.overrides.foldl (Override.run environment) settings.metrics

end WafWatch
