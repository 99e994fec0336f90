import WafWatch.Net.Address
import WafWatch.Settings.Basic

/-!
This module contains the address at which the metrics are served.
-/

namespace WafWatch

/--
Why the metrics cannot be served.
-/
inductive EndpointError where
  /-- The path is not the one at which metrics are served. -/
  | unsupportedPath (path : String)
  | badAddress
  deriving DecidableEq, Repr, Inhabited

def EndpointError.message : EndpointError → String
  | .unsupportedPath path =>
    "unsupported metrics endpoint \x27" ++ path ++
      "\x27: only \x27/metrics\x27 is currently supported"
  | .badAddress => s!"invalid metrics listen address: {Net.SocketAddress.complaint}"

def metricsPath : String := "/metrics"

def MetricsSettings.address (s : MetricsSettings) : Except EndpointError Net.SocketAddress :=
  if s.endpoint ≠ metricsPath then .error (.unsupportedPath s.endpoint)
  else
    match Net.SocketAddress.read? s!"{s.listenAddr}:{s.port}".toList with
    | some address => .ok address
    | none => .error .badAddress

end WafWatch
