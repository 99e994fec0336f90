import WafWatch.Ingest.Error
import WafWatch.Live.Error

/-!
This module holds the errors that the services of the daemon report to the outside.
-/

namespace WafWatch

/--
Why a service cannot be configured, started or stopped.
-/
inductive ServiceError where
  /-- There is no configuration file at the path. -/
  | noConfig (path : String)
  /-- The configuration file cannot be understood. -/
  | badConfig (reason : String)
  /-- A value of the configuration is not acceptable. -/
  | badValue (field reason : String)
  | channelSend (reason : String)
  | initFailed (reason : String)
  | alreadyRunning
  | notRunning
  | liveFeed (reason : String)
  | io (error : IoError)
  deriving DecidableEq, Repr, Inhabited

namespace ServiceError

def message : ServiceError → String
  | .noConfig path => s!"config error: config file not found: {path}"
  | .badConfig reason => s!"config error: failed to parse config: {reason}"
  | .badValue field reason =>
    "config error: invalid config value for \x27" ++ field ++ "\x27: " ++ reason
  | .channelSend reason => s!"pipeline error: channel send failed: {reason}"
  | .initFailed reason => s!"pipeline error: pipeline init failed: {reason}"
  | .alreadyRunning => "pipeline error: pipeline is already running"
  | .notRunning => "pipeline error: pipeline is not running"
  | .liveFeed reason => s!"live feed error: {reason}"
  | .io error => s!"io error: {error.message}"

def ofIngest : IngestError → ServiceError
  | .io error => .io error
  | error => .initFailed error.message

def ofLive : LiveError → ServiceError
  | .io error => .io error
  | error => .liveFeed error.message

end ServiceError

end WafWatch
