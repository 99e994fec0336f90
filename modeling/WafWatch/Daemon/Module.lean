import WafWatch.Ingest.Pipeline
import WafWatch.Live.Feed
import WafWatch.Metrics.Endpoint
import WafWatch.Service.Module

/-!
This module contains the two modules of the daemon, the live feed and the log pipeline, and how they are made
of the settings. Both are about one store: the pipeline alone writes to it, and has the hub tell the
subscribers of everything that it stores.
-/

namespace WafWatch

/--
A service of the daemon.
-/
inductive DaemonService where
  | feed (feed : Feed)
  | pipeline (pipeline : Pipeline)

abbrev DaemonModule := ServiceModule DaemonService

instance : Service DaemonService where
  start host
    | .feed feed => (feed.start host).map id .feed
    | .pipeline pipeline => pipeline.start.map id .pipeline
  stop
    | .feed feed => feed.stop.map id .feed
    | .pipeline pipeline => pipeline.stop.map id .pipeline
  health
    | .feed feed => feed.health
    | .pipeline pipeline => pipeline.health
  cancel
    | .feed feed => .feed feed.cancel
    | .pipeline pipeline => .pipeline pipeline.cancel

/-! ### Making modules -/

/--
Why the daemon cannot be built.
-/
inductive BuildError where
  | settings (error : ServiceError)
  | endpoint (error : EndpointError)
  | feedSettings (error : LiveError)
  | pipelineSettings (error : IngestError)
  | pipeline (error : IngestError)
  deriving DecidableEq, Repr, Inhabited

def BuildError.message : BuildError → String
  | .settings error => s!"config validation failed: {error.message}"
  | .endpoint error => error.message
  | .feedSettings error => s!"invalid live feed config: {error.message}"
  | .pipelineSettings error => s!"invalid log pipeline config: {error.message}"
  | .pipeline error => s!"failed to build log pipeline: {error.message}"

namespace DaemonModule

def feedName : String := "live-feed"

def pipelineName : String := "log-pipeline"

def feed? (settings : HubSettings) (store : EventStore) (stamps : StampSupply) :
    Except BuildError (Option DaemonModule) :=
  if settings.enabled then
    match LiveSettings.ofHub settings with
    | .error error => .error (.feedSettings error)
    | .ok settings =>
      .ok (some { name := feedName, service := .feed (.ofSettings settings store stamps) })
  else .ok none

def pipeline? (settings : IngestSettings) (store : EventStore) (stamps : StampSupply) :
    Except BuildError (Option DaemonModule) :=
  if settings.enabled then
    match PipelineSettings.ofIngest settings with
    | .error error => .error (.pipelineSettings error)
    | .ok settings =>
      match Pipeline.build settings (some store) none stamps with
      | .error error => .error (.pipeline error)
      | .ok pipeline => .ok (some { name := pipelineName, service := .pipeline pipeline })
  else .ok none

/-! ### Working together -/

def asPipeline? (module : DaemonModule) : Option Pipeline :=
  match module.service with
  | .pipeline pipeline => some pipeline
  | .feed _ => none

def asFeed? (module : DaemonModule) : Option Feed :=
  match module.service with
  | .feed feed => some feed
  | .pipeline _ => none

/--
Show a hub the store, and have it tell the subscribers of events.
-/
def inform (store : EventStore) (events : List SecurityEvent) (station : Station) : Station :=
  let station := { station with store }
  (events.foldl (fun station event => station.tryAnnounce (.newLog event)) station).settle.2

def hear (store : EventStore) (events : List SecurityEvent) (module : DaemonModule) : DaemonModule :=
  match module.service with
  | .feed feed =>
    { module with service := .feed { feed with station := inform store events feed.station } }
  | .pipeline pipeline => { module with service := .pipeline { pipeline with announced := [] } }

def relay (modules : List DaemonModule) : List DaemonModule :=
  let pipelines := modules.filterMap asPipeline?
  match pipelines.getLast? with
  | some pipeline => modules.map (hear pipeline.store (pipelines.flatMap (·.announced)))
  | none => modules

def advance (host : Host) (millis : Nat) (module : DaemonModule) : DaemonModule :=
  match module.service with
  | .feed feed =>
    { module with service := .feed { feed with station := feed.station.advance millis } }
  | .pipeline pipeline =>
    { module with service := .pipeline (pipeline.advance host millis) }

def settle (host : Host) (module : DaemonModule) : DaemonModule :=
  match module.service with
  | .feed feed =>
    let station := feed.station.tick?.getD feed.station
    { module with service := .feed { feed with station := station.settle.2 } }
  | .pipeline pipeline => { module with service := .pipeline (pipeline.settle host) }

def pass (millis : Nat) (module : DaemonModule) : DaemonModule :=
  match module.service with
  | .feed feed =>
    let station := { feed.station with clock := feed.station.clock + millis }
    { module with service := .feed { feed with station } }
  | .pipeline pipeline =>
    { module with service := .pipeline { pipeline with clock := pipeline.clock + millis } }

def withStamps (stamps : StampSupply) (module : DaemonModule) : DaemonModule :=
  match module.service with
  | .feed feed =>
    { module with service := .feed { feed with station := { feed.station with stamps } } }
  | .pipeline pipeline => { module with service := .pipeline { pipeline with stamps } }

def timeLeft? (module : DaemonModule) : Option Nat :=
  match module.service with
  | .feed feed => feed.station.ticker.map fun ticker => ticker.next - feed.station.clock
  | .pipeline pipeline => pipeline.nextTick?.map fun time => time - pipeline.clock

end DaemonModule

end WafWatch
