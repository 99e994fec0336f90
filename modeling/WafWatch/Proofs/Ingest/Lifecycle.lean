import WafWatch.Ingest.Pipeline
import WafWatch.Proofs.Ingest.Window
import WafWatch.Proofs.Settings.Agreement

/-!
This module contains the life of a log pipeline. Whatever happens between the calls, it starts unless it runs and
stops if it runs. A source that was given to it serves the first run, every other run gets the one that the
settings describe, and all runs fill one store.
-/

namespace WafWatch

/-! ### The source that settings describe -/

theorem CommandTail.isOk_ofCommand (command : List String) (timeout : Time.Span)
    : (ofCommand command timeout).isOk = command.head?.any (!·.isEmpty) := by
  cases command with
  | nil => rfl
  | cons program arguments =>
    unfold ofCommand
    cases hempty : program.isEmpty <;> simp [hempty, Except.isOk, Except.toBool]

namespace PipelineSettings

theorem primarySource_of_file {settings : PipelineSettings} (hfile : settings.source = .file)
    : settings.primarySource = .ok (.file { path := settings.logFile, limit := settings.maxLineLength }) := by
  unfold primarySource
  rw [hfile]

theorem exists_primarySource {settings : PipelineSettings} (hvalid : settings.validate = .ok ())
    : ∃ primary, settings.primarySource = .ok primary := by
  rw [validate_eq_ok_iff, checks, List.forall_mem_append] at hvalid
  have hchecks := hvalid.2
  unfold primarySource
  cases hsource : settings.source with
  | file => exact ⟨_, rfl⟩
  | command =>
    -- the checks ask for the name of a program in the words of the tail
    rw [hsource] at hchecks
    have hnamed : settings.command.head?.any (!·.isEmpty) = true := hchecks _ List.mem_cons_self
    rw [← CommandTail.isOk_ofCommand _ (.ofSeconds settings.commandTimeoutSecs)] at hnamed
    cases htail : CommandTail.ofCommand settings.command (.ofSeconds settings.commandTimeoutSecs) with
    | ok tail => exact ⟨_, rfl⟩
    | error error =>
      rw [htail] at hnamed
      contradiction
  | demo => exact ⟨_, rfl⟩

/--
The source of a run whose primary source is given.
-/
def sourceOver (settings : PipelineSettings) (primary : LogSource) : LogSource :=
  if settings.demoFallback ∧ settings.source ≠ .demo then .fallback primary (.demo false) else primary

theorem buildSource_of_primarySource {settings : PipelineSettings} {primary : LogSource}
    (h : settings.primarySource = .ok primary)
    : settings.buildSource = .ok (settings.sourceOver primary) := by
  unfold buildSource sourceOver
  rw [h]
  show (if _ then _ else _) = _
  split <;> rfl

theorem exists_buildSource {settings : PipelineSettings} (hvalid : settings.validate = .ok ())
    : ∃ source, settings.buildSource = .ok source := by
  obtain ⟨primary, hprimary⟩ := exists_primarySource hvalid
  exact ⟨_, buildSource_of_primarySource hprimary⟩

end PipelineSettings

/-! ### Starting and stopping -/

namespace Pipeline

variable {pipeline : Pipeline} {described : LogSource}

/--
What starting a pipeline makes of it if it gets a source.
-/
def begun (pipeline : Pipeline) (source : LogSource) : Pipeline :=
  { pipeline with
    state := .running
    customSource := none
    run := some {
      ingestion := { source, lineLimit := pipeline.settings.maxLineLength }
      nextTick := pipeline.clock
      ended := pipeline.cancelled } }

theorem start_of_running (h : pipeline.state = .running) :
    pipeline.start = (.error .alreadyRunning, pipeline) :=
  if_pos h

theorem start_of_not_running (h : pipeline.state ≠ .running)
    (hdescribed : pipeline.settings.buildSource = .ok described)
    : pipeline.start = (.ok (), pipeline.begun (pipeline.customSource.getD described)) := by
  obtain ⟨settings, state, store, stamps, customSource⟩ := pipeline
  unfold start takeSource begun
  rw [if_neg h]
  cases customSource with
  | some source => rfl
  | none =>
    dsimp only at hdescribed ⊢
    rw [hdescribed]
    rfl

theorem stop_of_not_running (h : pipeline.state ≠ .running) : pipeline.stop = (.error .notRunning, pipeline) :=
  if_neg h

theorem stop_of_running (h : pipeline.state = .running) :
    pipeline.stop = (.ok (), { pipeline with state := .stopped, run := none }) :=
  if_pos h

theorem build_eq_ok_iff {settings : PipelineSettings} {store : Option EventStore} {custom : Option LogSource}
    {stamps : StampSupply}
    : build settings store custom stamps = .ok pipeline
        ↔
      settings.validate = .ok ()
        ∧ { settings, store := store.getD (.empty settings.storeCapacity), stamps, customSource := custom }
            = pipeline := by
  unfold build
  rw [bind_pure_eq_ok_iff]
  exact ⟨fun ⟨_, h⟩ => h, fun h => ⟨(), h⟩⟩

theorem build_of_valid {settings : PipelineSettings} (h : settings.validate = .ok ()) (store : Option EventStore)
    (custom : Option LogSource) (stamps : StampSupply)
    : build settings store custom stamps
        = .ok { settings, store := store.getD (.empty settings.storeCapacity), stamps, customSource := custom } :=
  build_eq_ok_iff.mpr ⟨h, rfl⟩

end Pipeline

theorem StoreRun.serve_store (run : StoreRun) (call : StoreCall) :
    (run.serve call).store = run.store.serve call := by
  cases call with
  | append event => rfl
  | appendIfAbsent event =>
    rw [serve_appendIfAbsent]
    rfl

theorem StoreRun.serveAll_store (run : StoreRun) (calls : List StoreCall)
    : (run.serveAll calls).store = calls.foldl EventStore.serve run.store := by
  unfold serveAll
  induction calls generalizing run with
  | nil => rfl
  | cons call calls ih => rw [List.foldl_cons, List.foldl_cons, ih, serve_store]

/--
A tick calls the store once for each event that it offers.
-/
theorem Ingestion.tick_store (ingestion : Ingestion) (host : Host) (store : EventStore) (stamps : StampSupply)
    : (ingestion.tick host store stamps).store
        =
      ((Intake.tick ingestion host stamps).candidates.map .appendIfAbsent).foldl EventStore.serve store := by
  have htick := StoreRun.takeIn_eq_offerAll { store } (.tick ingestion host stamps)
  exact (congrArg StoreRun.store htick).trans (StoreRun.serveAll_store _ _)

theorem Ingestion.tick_ingestion (ingestion : Ingestion) (host : Host) (store : EventStore) (stamps : StampSupply)
    : let tick := ingestion.tick host store stamps
      tick.ingestion
        =
      { ingestion with
        source := (ingestion.source.poll host).2
        status := ingestion.status.record tick.report } := by
  unfold tick
  cases ingestion.source.poll host with
  | mk answer source => cases answer <;> rfl

/-! ### What happens to a pipeline -/

/--
Something that happens to a pipeline.
-/
inductive PipelineStep where
  | start
  | stop
  /-- Whatever runs is told to end. -/
  | cancel
  /-- The clock comes to a time. -/
  | clock (time : Nat)
  /-- A tick takes place, if one is due. -/
  | settle (host : Host)
  /-- Somebody else makes a call of the store. -/
  | call (call : StoreCall)

/--
A tick that has ended: the machine that it found, the answer of its source and its report.
-/
structure PastTick where
  host : Host
  answer : Except IngestError (List String)
  report : TickReport

/--
A run that has begun: its source, and its ticks so far.
-/
structure PastRun where
  source : LogSource
  ticks : List PastTick := []

def PastRun.add (run : PastRun) (tick : PastTick) : PastRun :=
  { run with ticks := run.ticks ++ [tick] }

namespace Pipeline

def take (pipeline : Pipeline) : PipelineStep → Pipeline
  | .start => pipeline.start.2
  | .stop => pipeline.stop.2
  | .cancel => pipeline.cancel
  | .clock time => { pipeline with clock := time }
  | .settle host => pipeline.settle host
  | .call call => { pipeline with store := pipeline.store.serve call }

def takeAll (pipeline : Pipeline) (steps : List PipelineStep) : Pipeline :=
  steps.foldl take pipeline

/--
The run of which a tick is due.
-/
def dueRun? (pipeline : Pipeline) : Option IngestRun :=
  pipeline.activeRun?.filter (·.nextTick ≤ pipeline.clock)

/--
The tick that is due.
-/
def dueTick? (pipeline : Pipeline) (host : Host) : Option Tick :=
  pipeline.dueRun?.map (·.ingestion.tick host pipeline.store pipeline.stamps)

theorem dueRun?_eq_some {pipeline : Pipeline} {run : IngestRun} (h : pipeline.dueRun? = some run)
    : pipeline.run = some run ∧ run.ended = false := by
  unfold dueRun? activeRun? at h
  rw [Option.filter_eq_some_iff, Option.filter_eq_some_iff] at h
  exact ⟨h.1.1, by simpa using h.1.2⟩

theorem settle_eq (pipeline : Pipeline) (host : Host)
    : pipeline.settle host
        =
      match pipeline.dueRun? with
      | some run => pipeline.adopt run (run.ingestion.tick host pipeline.store pipeline.stamps)
      | none => pipeline := by
  unfold settle dueRun?
  cases pipeline.activeRun? with
  | none => rfl
  | some run => by_cases hdue : run.nextTick ≤ pipeline.clock <;> simp [Option.filter_some, hdue]

theorem start_frame (pipeline : Pipeline)
    : pipeline.start.2.store = pipeline.store ∧ pipeline.start.2.announced = pipeline.announced := by
  unfold start takeSource
  split
  . exact ⟨rfl, rfl⟩
  . cases pipeline.customSource with
    | some source => exact ⟨rfl, rfl⟩
    | none => cases pipeline.settings.buildSource <;> exact ⟨rfl, rfl⟩

theorem stop_frame (pipeline : Pipeline)
    : pipeline.stop.2.settings = pipeline.settings
        ∧ pipeline.stop.2.customSource = pipeline.customSource
        ∧ pipeline.stop.2.store = pipeline.store
        ∧ pipeline.stop.2.announced = pipeline.announced := by
  unfold stop
  split <;> exact ⟨rfl, rfl, rfl, rfl⟩

end Pipeline

/--
A pipeline with what happened to it so far.
-/
structure PipelineHistory where
  pipeline : Pipeline
  /-- The runs that have begun, the latest first. -/
  runs : List PastRun := []
  /-- The calls of the store, by ticks or by others. -/
  calls : List StoreCall := []

namespace PipelineHistory

/--
What a step adds to the runs.
-/
def runsAfter (history : PipelineHistory) : PipelineStep → List PastRun
  | .start =>
    match history.pipeline.start with
    | (.ok (), started) => (started.run.map fun run => { source := run.ingestion.source }).toList ++ history.runs
    | (.error _, _) => history.runs
  | .settle host =>
    match history.pipeline.dueRun? with
    | some run =>
      let answer := (run.ingestion.source.poll host).1
      let report := (run.ingestion.tick host history.pipeline.store history.pipeline.stamps).report
      history.runs.modifyHead (·.add { host, answer, report })
    | none => history.runs
  | _ => history.runs

/--
The calls of the store that a step makes.
-/
def callsOf (history : PipelineHistory) : PipelineStep → List StoreCall
  | .settle host =>
    match history.pipeline.dueRun? with
    | some run =>
      (Intake.tick run.ingestion host history.pipeline.stamps).candidates.map .appendIfAbsent
    | none => []
  | .call call => [call]
  | _ => []

def take (history : PipelineHistory) (step : PipelineStep) : PipelineHistory where
  pipeline := history.pipeline.take step
  runs := history.runsAfter step
  calls := history.calls ++ history.callsOf step

def takeAll (history : PipelineHistory) (steps : List PipelineStep) : PipelineHistory :=
  steps.foldl take history

variable {history : PipelineHistory} {described : LogSource}

theorem take_start_of_running (h : history.pipeline.state = .running) : history.take .start = history := by
  simp [take, Pipeline.take, runsAfter, callsOf, Pipeline.start_of_running h]

theorem take_start_of_not_running (h : history.pipeline.state ≠ .running)
    (hdescribed : history.pipeline.settings.buildSource = .ok described)
    : let source := history.pipeline.customSource.getD described
      history.take .start
        = { history with pipeline := history.pipeline.begun source, runs := { source } :: history.runs } := by
  simp [take, Pipeline.take, runsAfter, callsOf, Pipeline.start_of_not_running h hdescribed, Pipeline.begun]

theorem take_settle_of_not_due (h : history.pipeline.dueRun? = none) (host : Host) :
    history.take (.settle host) = history := by
  simp [take, Pipeline.take, runsAfter, callsOf, Pipeline.settle_eq, h]

theorem take_settle_of_due {run : IngestRun} (h : history.pipeline.dueRun? = some run) (host : Host)
    : let pipeline := history.pipeline
      let answer := (run.ingestion.source.poll host).1
      let tick := run.ingestion.tick host pipeline.store pipeline.stamps
      history.take (.settle host)
        =
      { pipeline := pipeline.adopt run tick
        runs := history.runs.modifyHead (·.add { host, answer, report := tick.report })
        calls :=
          history.calls
            ++ (Intake.tick run.ingestion host pipeline.stamps).candidates.map .appendIfAbsent } := by
  simp [take, Pipeline.take, runsAfter, callsOf, Pipeline.settle_eq, h]

/--
What holds at all times of a pipeline that was built with the given settings, store and source.
-/
structure Sound (settings : PipelineSettings) (store : EventStore) (custom : Option LogSource)
    (described : LogSource) (history : PipelineHistory) : Prop where
  settings_eq : history.pipeline.settings = settings
  custom_eq : history.pipeline.customSource = if history.runs = [] then custom else none
  sources : ∀ later first, history.runs.map (·.source) = later ++ [first] →
    first = custom.getD described ∧ ∀ source ∈ later, source = described
  store_eq : history.pipeline.store = history.calls.foldl EventStore.serve store

variable {settings : PipelineSettings} {store : EventStore} {custom : Option LogSource}

theorem sound_of_build {stamps : StampSupply} {pipeline : Pipeline} {given : Option EventStore}
    (hbuild : Pipeline.build settings given custom stamps = .ok pipeline) (described : LogSource)
    : Sound settings (given.getD (.empty settings.storeCapacity)) custom described { pipeline } := by
  obtain ⟨-, rfl⟩ := Pipeline.build_eq_ok_iff.mp hbuild
  exact ⟨rfl, rfl, by simp, rfl⟩

theorem Sound.start (h : history.Sound settings store custom described)
    (hdescribed : settings.buildSource = .ok described)
    : (history.take .start).Sound settings store custom described := by
  by_cases hstate : history.pipeline.state = .running
  . rwa [take_start_of_running hstate]
  . rw [← h.settings_eq] at hdescribed
    rw [take_start_of_not_running hstate hdescribed, h.custom_eq]
    refine ⟨h.settings_eq, rfl, ?_, h.store_eq⟩
    intro later first hruns
    rw [List.map_cons] at hruns
    cases later with
    | nil =>
      -- the first run of all
      rw [List.nil_append, List.cons.injEq, List.map_eq_nil_iff] at hruns
      rw [if_pos hruns.2] at hruns
      exact ⟨hruns.1.symm, nofun⟩
    | cons latest later =>
      rw [List.cons_append, List.cons.injEq] at hruns
      have hnone : history.runs ≠ [] := by
        intro hnil
        simp [hnil] at hruns
      rw [if_neg hnone, Option.getD_none] at hruns
      obtain ⟨hfirst, hlater⟩ := h.sources later first hruns.2
      exact ⟨hfirst, List.forall_mem_cons.mpr ⟨hruns.1.symm, hlater⟩⟩

theorem Sound.settle (h : history.Sound settings store custom described) (host : Host)
    : (history.take (.settle host)).Sound settings store custom described := by
  cases hdue : history.pipeline.dueRun? with
  | none => rwa [take_settle_of_not_due hdue]
  | some run =>
    rw [take_settle_of_due hdue]
    refine ⟨h.settings_eq, ?_, ?_, ?_⟩
    . show history.pipeline.customSource = _
      simpa only [List.modifyHead_eq_nil_iff] using h.custom_eq
    . intro later first hruns
      apply h.sources later first
      rw [← hruns]
      cases history.runs <;> rfl
    . rw [List.foldl_append, ← h.store_eq, ← Ingestion.tick_store]
      rfl

theorem Sound.frame (h : history.Sound settings store custom described) {pipeline : Pipeline}
    {calls : List StoreCall} (hsettings : pipeline.settings = history.pipeline.settings)
    (hcustom : pipeline.customSource = history.pipeline.customSource)
    (hstore : pipeline.store = calls.foldl EventStore.serve history.pipeline.store)
    : Sound settings store custom described { history with pipeline, calls := history.calls ++ calls } where
  settings_eq := hsettings.trans h.settings_eq
  custom_eq := hcustom.trans h.custom_eq
  sources := h.sources
  store_eq := by rw [hstore, List.foldl_append, ← h.store_eq]

theorem Sound.take (h : history.Sound settings store custom described)
    (hdescribed : settings.buildSource = .ok described) (step : PipelineStep)
    : (history.take step).Sound settings store custom described := by
  cases step with
  | start => exact h.start hdescribed
  | stop =>
    obtain ⟨hsettings, hcustom, hstore, -⟩ := history.pipeline.stop_frame
    exact h.frame hsettings hcustom hstore
  | cancel => exact h.frame rfl rfl rfl
  | clock time => exact h.frame rfl rfl rfl
  | settle host => exact h.settle host
  | call call => exact h.frame rfl rfl rfl

theorem Sound.takeAll (h : history.Sound settings store custom described)
    (hdescribed : settings.buildSource = .ok described) (steps : List PipelineStep)
    : (history.takeAll steps).Sound settings store custom described := by
  unfold PipelineHistory.takeAll
  induction steps generalizing history with
  | nil => exact h
  | cons step steps ih => exact ih (h.take hdescribed step)

theorem pipeline_takeAll (history : PipelineHistory) (steps : List PipelineStep)
    : (history.takeAll steps).pipeline = history.pipeline.takeAll steps := by
  unfold takeAll Pipeline.takeAll
  induction steps generalizing history with
  | nil => rfl
  | cons step steps ih => exact ih (history.take step)

end PipelineHistory

namespace Pipeline

/--
A pipeline that could be built starts unless it runs and stops if it runs, whatever happened to it before; a call
that fails changes nothing. The first of its runs has the source that it was given, if any, and all others have
the source that the settings describe, which has not been polled then. The store is the one of the beginning with
all calls that were made of it, and neither starting nor stopping makes one.
-/
theorem built_lifecycle {settings : PipelineSettings} {store : Option EventStore} {custom : Option LogSource}
    {stamps : StampSupply} {pipeline : Pipeline}
    (hbuild : build settings store custom stamps = .ok pipeline) (steps : List PipelineStep)
    : (∀ s : PipelineSettings, s.validate = .ok () → ∃ source, s.buildSource = .ok source)
        ∧
      ∃ described, settings.buildSource = .ok described
        ∧
      let history := PipelineHistory.takeAll { pipeline } steps
      let now := history.pipeline
      now = pipeline.takeAll steps
        ∧
      (now.state = .running → now.start = (.error .alreadyRunning, now))
        ∧
      (now.state ≠ .running → now.start.1 = .ok () ∧ now.start.2.state = .running)
        ∧
      (now.state = .running → now.stop.1 = .ok () ∧ now.stop.2.state = .stopped)
        ∧
      (now.state ≠ .running → now.stop = (.error .notRunning, now))
        ∧
      (∀ later first, history.runs.map (·.source) = later ++ [first] →
        first = custom.getD described ∧ ∀ source ∈ later, source = described)
        ∧
      (now.start.2.store = now.store ∧ now.stop.2.store = now.store)
        ∧
      now.store = history.calls.foldl EventStore.serve (store.getD (.empty settings.storeCapacity)) := by
  refine ⟨fun s => PipelineSettings.exists_buildSource, ?_⟩
  have hvalid := (build_eq_ok_iff.mp hbuild).1
  obtain ⟨described, hdescribed⟩ := PipelineSettings.exists_buildSource hvalid
  refine ⟨described, hdescribed, ?_⟩
  intro history now
  have hsound := (PipelineHistory.sound_of_build hbuild described).takeAll hdescribed steps
  have hnow : now.settings.buildSource = .ok described := by rw [← hdescribed, ← hsound.settings_eq]
  refine ⟨PipelineHistory.pipeline_takeAll _ _, start_of_running, ?_, ?_, stop_of_not_running, hsound.sources,
    ⟨now.start_frame.1, now.stop_frame.2.2.1⟩, hsound.store_eq⟩
  . intro hstate
    rw [start_of_not_running hstate hnow]
    exact ⟨rfl, rfl⟩
  . intro hstate
    rw [stop_of_running hstate]
    exact ⟨rfl, rfl⟩

/-- A pipeline that is started again follows its log file, after the demonstration lines that it was given. -/
theorem built_lifecycle_restarted
    : ∃ pipeline described, build .standard none (some (.demo false)) ⟨fun _ => default, 0⟩ = .ok pipeline
        ∧ PipelineSettings.standard.buildSource = .ok described
        ∧
      let history := PipelineHistory.takeAll { pipeline } [.start, .stop, .call (.append default), .start]
      history.runs.map (·.source) = [described, .demo false]
        ∧ history.pipeline.start = (.error .alreadyRunning, history.pipeline)
        ∧ history.pipeline.stop.2.store.events.length = 1 := by
  have hvalid : PipelineSettings.standard.validate = .ok () := by decide +kernel
  have hbuild := build_of_valid hvalid none (some (.demo false)) ⟨fun _ => default, 0⟩
  obtain ⟨-, described, hdescribed, -, hrunning, -, -, -, hsources, ⟨-, hstop⟩, -⟩ :=
    built_lifecycle hbuild [.start, .stop, .call (.append default), .start]
  refine ⟨_, described, hbuild, hdescribed, ?_, hrunning rfl, ?_⟩
  . have hlatest := (hsources [_] (.demo false) rfl).2 _ List.mem_cons_self
    exact congrArg ([·, .demo false]) hlatest
  . rw [hstop]
    rfl

end Pipeline

end WafWatch
