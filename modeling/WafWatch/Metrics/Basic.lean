/-!
This module holds the measurements that the program takes of itself: the metrics, what is measured,
and the meter that measurements are recorded in.
-/

namespace WafWatch

/--
How the measurements of a metric combine.
-/
inductive MetricKind where
  /-- A number that only grows. -/
  | counter
  /-- A number that is set anew each time. -/
  | gauge
  /-- A distribution of samples. -/
  | histogram
  deriving DecidableEq, Repr, Inhabited

def MetricKind.name : MetricKind → String
  | .counter => "counter"
  | .gauge => "gauge"
  | .histogram => "histogram"

/--
A quantity that is measured.
-/
structure Metric where
  name : String
  kind : MetricKind
  description : String
  deriving DecidableEq, Repr, Inhabited

namespace Metric

def linesRead : Metric where
  name := "wafscope_ingest_lines_read_total"
  kind := .counter
  description := "Total number of raw lines read from the log source"

def eventsParsed : Metric where
  name := "wafscope_ingest_events_parsed_total"
  kind := .counter
  description := "Total number of lines recognized as WAF security events"

def eventsStored : Metric where
  name := "wafscope_ingest_events_stored_total"
  kind := .counter
  description := "Total number of events appended to the event store"

def duplicates : Metric where
  name := "wafscope_ingest_duplicates_total"
  kind := .counter
  description := "Total number of events skipped because the raw line was already stored"

def sourceErrors : Metric where
  name := "wafscope_ingest_source_errors_total"
  kind := .counter
  description := "Total number of ticks where the log source was unavailable"

def eventsEvicted : Metric where
  name := "wafscope_ingest_events_evicted_total"
  kind := .counter
  description := "Total number of events evicted from the store by capacity"

def storeSize : Metric where
  name := "wafscope_ingest_store_size"
  kind := .gauge
  description := "Current number of events held in the event store"

def tickDuration : Metric where
  name := "wafscope_ingest_tick_duration_seconds"
  kind := .histogram
  description := "Time to process a single ingestion tick in seconds"

def subscribers : Metric where
  name := "wafscope_hub_subscribers"
  kind := .gauge
  description := "Number of connected live subscribers"

def messagesBroadcast : Metric where
  name := "wafscope_hub_messages_broadcast_total"
  kind := .counter
  description := "Total number of messages broadcast to subscribers"

def subscribersEvicted : Metric where
  name := "wafscope_hub_subscribers_evicted_total"
  kind := .counter
  description := "Total number of subscribers evicted for a full or closed queue"

def repliesDropped : Metric where
  name := "wafscope_hub_replies_dropped_total"
  kind := .counter
  description := "Total number of directed replies dropped because the queue was full"

def requestsRejected : Metric where
  name := "wafscope_hub_requests_rejected_total"
  kind := .counter
  description := "Total number of inbound subscriber messages rejected as malformed"

def uptime : Metric where
  name := "wafscope_daemon_uptime_seconds"
  kind := .gauge
  description := "wafscope daemon uptime in seconds"

def buildInfo : Metric where
  name := "wafscope_daemon_build_info"
  kind := .gauge
  description := "Build information (always 1, with version label)"

def all : List Metric :=
  [linesRead, eventsParsed, eventsStored, duplicates, sourceErrors, eventsEvicted, storeSize,
    tickDuration, subscribers, messagesBroadcast, subscribersEvicted, repliesDropped,
    requestsRejected, uptime, buildInfo]

end Metric

def attackTypeLabel : String := "attack_type"

def reasonLabel : String := "reason"

/--
A metric, or the part of it that has a label.
-/
structure Series where
  metric : Metric
  label : Option (String × String) := none
  deriving DecidableEq, Repr, Inhabited

/--
The name of a series, with its label in braces.
-/
def Series.name (series : Series) : String :=
  match series.label with
  | none => series.metric.name
  | some (key, value) => series.metric.name ++ "\x7b" ++ key ++ "=" ++ value ++ "\x7d"

/--
One measurement.
-/
inductive Measurement where
  /-- A counter grows by a number, which may be zero. -/
  | add (series : Series) (n : Nat)
  /-- A gauge is set to a number. -/
  | set (series : Series) (n : Nat)
  /-- A histogram gets a sample. -/
  | sample (series : Series)
  deriving DecidableEq, Repr, Inhabited

def Measurement.series : Measurement → Series
  | .add series _ => series
  | .set series _ => series
  | .sample series => series

/--
The number of a series after a measurement: the sum of a counter, the last number of a gauge, the
number of samples of a histogram.
-/
def Measurement.applyTo : Measurement → Nat → Nat
  | .add _ n, total => total + n
  | .set _ n, _ => n
  | .sample _, count => count + 1

/--
The numbers of the series that have been measured, in the order of their first measurements.
-/
abbrev Meter := List (Series × Nat)

namespace Meter

def read? (meter : Meter) (series : Series) : Option Nat :=
  meter.lookup series

def record (meter : Meter) (measurement : Measurement) : Meter :=
  match meter with
  | [] => [(measurement.series, measurement.applyTo 0)]
  | (series, n) :: rest =>
    if series = measurement.series then (series, measurement.applyTo n) :: rest
    else (series, n) :: record rest measurement

def recordAll (meter : Meter) (measurements : List Measurement) : Meter :=
  measurements.foldl record meter

end Meter

end WafWatch
