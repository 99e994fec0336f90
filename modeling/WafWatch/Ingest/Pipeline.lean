import WafWatch.Ingest.Settings
import WafWatch.Ingest.Tick
import WafWatch.Service.Error
import WafWatch.Service.Health
import WafWatch.Service.State
import WafWatch.Store.Query

/-!
This module contains the log pipeline: a service that polls a log source from time to time and stores what
it finds. The store outlives every run. Time is a number of milliseconds that moves only when it is
advanced; a tick takes no time.
-/

namespace WafWatch

/--
The ingestion of one run of a pipeline.
-/
structure IngestRun where
  ingestion : Ingestion
  /-- The time of the next tick. -/
  nextTick : Nat
  /-- It has been told to end from outside. -/
  ended : Bool := false

/--
A log pipeline.
-/
structure Pipeline where
  settings : PipelineSettings
  state : RunState := .initialized
  store : EventStore
  /-- The source of new identifiers and times. -/
  stamps : StampSupply
  /-- The source that the next run gets in the place of the one that the settings describe. -/
  customSource : Option LogSource := none
  run : Option IngestRun := none
  /-- Whatever runs has been told to end, and so is whatever starts. -/
  cancelled : Bool := false
  clock : Nat := 0
  meter : Meter := []
  /-- The stored events that have still to be announced, in the order in which they were stored. -/
  announced : List SecurityEvent := []

namespace Pipeline

/--
A pipeline that does not run yet. Without a store it makes one of the capacity in the settings.
-/
def build (settings : PipelineSettings) (store : Option EventStore) (source : Option LogSource)
    (stamps : StampSupply) : Except IngestError Pipeline := do
  settings.validate
  pure {
    settings
    store := store.getD (.empty settings.storeCapacity)
    stamps
    customSource := source }

/-! ### Starting and stopping -/

def takeSource (pipeline : Pipeline) : Except IngestError LogSource × Pipeline :=
  match pipeline.customSource with
  | some source => (.ok source, { pipeline with customSource := none })
  | none => (pipeline.settings.buildSource, pipeline)

/--
Start a pipeline. Its first tick is due at once.
-/
def start (pipeline : Pipeline) : Except ServiceError Unit × Pipeline :=
  if pipeline.state = .running then (.error .alreadyRunning, pipeline)
  else
    match pipeline.takeSource with
    | (.error error, pipeline) => (.error (.ofIngest error), pipeline)
    | (.ok source, pipeline) =>
      (.ok (), { pipeline with
        state := .running
        run := some {
          ingestion := { source, lineLimit := pipeline.settings.maxLineLength }
          nextTick := pipeline.clock
          ended := pipeline.cancelled } })

def stop (pipeline : Pipeline) : Except ServiceError Unit × Pipeline :=
  if pipeline.state = .running then (.ok (), { pipeline with state := .stopped, run := none })
  else (.error .notRunning, pipeline)

def cancel (pipeline : Pipeline) : Pipeline :=
  { pipeline with
    cancelled := true
    run := pipeline.run.map fun run => { run with ended := true } }

/-! ### Health -/

/--
The health of a run: whether its last tick could read the source.
-/
def IngestRun.health (run : IngestRun) : Health :=
  let status := run.ingestion.status
  if run.ended then .unhealthy "ingestion task exited"
  else if 0 < status.consecutiveErrors then
    .degraded ("log source unavailable: " ++ status.lastError.getD "")
  else .healthy

def health (pipeline : Pipeline) : Health :=
  match pipeline.state.complaint? with
  | some complaint => .unhealthy complaint
  | none => (pipeline.run.map IngestRun.health).getD .healthy

/-! ### Ticks -/

def activeRun? (pipeline : Pipeline) : Option IngestRun :=
  pipeline.run.filter (!·.ended)

def nextTick? (pipeline : Pipeline) : Option Nat :=
  pipeline.activeRun?.map (·.nextTick)

def adopt (pipeline : Pipeline) (run : IngestRun) (tick : Tick) : Pipeline :=
  { pipeline with
    run := some { run with
      ingestion := tick.ingestion
      nextTick := run.nextTick + pipeline.settings.pollInterval.millis }
    store := tick.store
    stamps := tick.stamps
    meter := pipeline.meter.recordAll tick.measurements
    announced := pipeline.announced ++ tick.announced }

def settle (pipeline : Pipeline) (host : Host) : Pipeline :=
  match pipeline.activeRun? with
  | some run =>
    if run.nextTick ≤ pipeline.clock then
      pipeline.adopt run (run.ingestion.tick host pipeline.store pipeline.stamps)
    else pipeline
  | none => pipeline

/--
Advance the clock to a time, and stop on the way at each of at most `count` ticks.
-/
def advanceTo (pipeline : Pipeline) (host : Host) (time : Nat) : (count : Nat) → Pipeline
  | 0 => { pipeline with clock := time }
  | count + 1 =>
    match pipeline.nextTick?.filter (· ≤ time) with
    | some clock => ({ pipeline with clock }.settle host).advanceTo host time count
    | none => { pipeline with clock := time }

def advance (pipeline : Pipeline) (host : Host) (millis : Nat) : Pipeline :=
  pipeline.advanceTo host (pipeline.clock + millis) (millis + 1)

end Pipeline

end WafWatch
