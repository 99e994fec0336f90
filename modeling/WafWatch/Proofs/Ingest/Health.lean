import Mathlib.Data.List.DropRight
import WafWatch.Proofs.Ingest.Announcement
import WafWatch.Proofs.Ingest.Lifecycle
import WafWatch.Proofs.Source.Fallback

/-!
This module contains what the health of a log pipeline tells: whether the last tick of the run could read the source.
Nothing of the ticks before it or of other runs is in it, and the demonstration lines keep it good.
-/

namespace WafWatch

/-! ### Status -/

def TickReport.isFailure (report : TickReport) : Bool :=
  report.sourceError.isSome

/--
What is known after ticks with the given reports.
-/
structure IngestStatus.TellsOf (status : IngestStatus) (reports : List TickReport) : Prop where
  ticks : status.ticks = reports.length
  consecutiveErrors : status.consecutiveErrors = (reports.rtakeWhile TickReport.isFailure).length
  lastError : status.lastError = reports.getLast?.bind (·.sourceError)

namespace IngestStatus.TellsOf

variable {status : IngestStatus} {reports : List TickReport}

theorem nil : TellsOf {} [] := ⟨rfl, rfl, rfl⟩

theorem record (h : status.TellsOf reports) (report : TickReport) :
    (status.record report).TellsOf (reports ++ [report]) := by
  have hlast : (reports ++ [report]).getLast?.bind (·.sourceError) = report.sourceError := by
    rw [List.getLast?_concat, Option.bind_some]
  unfold IngestStatus.record
  cases hreport : report.sourceError with
  | some error =>
    have hfailure : report.isFailure = true := congrArg Option.isSome hreport
    constructor
    . simp [h.ticks]
    . simp [List.rtakeWhile_concat_pos _ _ _ hfailure, h.consecutiveErrors]
    . rw [hlast, hreport]
  | none =>
    have hfailure : ¬report.isFailure = true := by simp [TickReport.isFailure, hreport]
    constructor
    . simp [h.ticks]
    . simp [List.rtakeWhile_concat_neg _ _ _ hfailure]
    . rw [hlast, hreport]

/--
There are errors in a row at the end exactly if the last tick failed.
-/
theorem pos_iff (h : status.TellsOf reports) : 0 < status.consecutiveErrors ↔ status.lastError.isSome = true := by
  rw [h.consecutiveErrors, h.lastError]
  cases reports using List.reverseRecOn with
  | nil => simp
  | append_singleton reports report =>
    have hlast : report.sourceError.isSome = report.isFailure := rfl
    rw [List.getLast?_concat, Option.bind_some, hlast]
    by_cases hfailure : report.isFailure = true
    . simp [List.rtakeWhile_concat_pos _ _ _ hfailure, hfailure]
    . simp [List.rtakeWhile_concat_neg _ _ _ hfailure, hfailure]

end IngestStatus.TellsOf

/-! ### Ticks -/

/--
The text of the error of a source that failed.
-/
def failureOf? : Except IngestError (List String) → Option String
  | .ok _ => none
  | .error error => some error.message

theorem failureOf?_of_isOk {answer : Except IngestError (List String)} (h : answer.isOk = true) :
    failureOf? answer = none := by
  cases answer with
  | ok lines => rfl
  | error error => contradiction

namespace Ingestion

variable (ingestion : Ingestion) (host : Host) (store : EventStore) (stamps : StampSupply)

theorem tick_sourceError
    : (ingestion.tick host store stamps).report.sourceError = failureOf? (ingestion.source.poll host).1 := by
  cases hpoll : ingestion.source.poll host with
  | mk answer source =>
    cases answer with
    | ok lines => exact (tick_accounts hpoll store stamps).2.sourceError
    | error error =>
      rw [tick_report_of_error hpoll]
      rfl

end Ingestion

/-! ### Runs -/

/--
What an ingestion knows, and what its source has become, is a matter of its ticks.
-/
structure PastRun.LedTo (past : PastRun) (ingestion : Ingestion) : Prop where
  source_eq : ingestion.source = past.source.after (past.ticks.map (·.host))
  answers_eq : past.ticks.map (·.answer) = past.source.answers (past.ticks.map (·.host))
  failures : ∀ tick ∈ past.ticks, tick.report.sourceError = failureOf? tick.answer
  status : ingestion.status.TellsOf (past.ticks.map (·.report))

namespace PastRun.LedTo

variable {past : PastRun} {ingestion : Ingestion}

theorem start (source : LogSource) (lineLimit : Nat) :
    LedTo { source } { source, lineLimit } where
  source_eq := rfl
  answers_eq := rfl
  failures := nofun
  status := .nil

theorem tick (h : past.LedTo ingestion) (host : Host) (store : EventStore) (stamps : StampSupply)
    : let answer := (ingestion.source.poll host).1
      let tick := ingestion.tick host store stamps
      (past.add { host, answer, report := tick.report }).LedTo tick.ingestion := by
  intro answer tick
  have hingestion : tick.ingestion = _ := ingestion.tick_ingestion host store stamps
  refine ⟨?_, ?_, ?_, ?_⟩
  . rw [hingestion, add, List.map_append, List.map_singleton, LogSource.after_concat, ← h.source_eq]
  . rw [add, List.map_append, List.map_append, List.map_singleton, List.map_singleton, LogSource.answers_concat,
      ← h.source_eq, h.answers_eq]
  . rw [add, List.forall_mem_append, List.forall_mem_singleton]
    exact ⟨h.failures, ingestion.tick_sourceError host store stamps⟩
  . rw [hingestion, add, List.map_append, List.map_singleton]
    exact h.status.record tick.report

/--
The status tells the error of the last tick.
-/
theorem lastError_eq (h : past.LedTo ingestion)
    : ingestion.status.lastError = past.ticks.getLast?.bind (failureOf? ·.answer) := by
  rw [h.status.lastError, List.getLast?_map]
  cases hlast : past.ticks.getLast? with
  | none => rfl
  | some tick => exact h.failures tick (List.mem_of_getLast? hlast)

theorem covered (h : past.LedTo ingestion) {primary : LogSource} (hsource : past.source = .fallback primary (.demo false))
    : past.ticks.map (·.answer) = WafWatch.covered false (primary.answers (past.ticks.map (·.host)))
        ∧ ∀ tick ∈ past.ticks, failureOf? tick.answer = none := by
  have hanswers := h.answers_eq
  rw [hsource, LogSource.answers_fallback] at hanswers
  refine ⟨hanswers, ?_⟩
  intro tick htick
  apply failureOf?_of_isOk
  apply isOk_of_mem_covered
  rw [← hanswers]
  exact List.mem_map_of_mem htick

end PastRun.LedTo

/--
The health of a run that has not ended.
-/
theorem Pipeline.health_of_tellsOf {run : IngestRun} (hended : run.ended = false) {reports : List TickReport}
    (h : run.ingestion.status.TellsOf reports)
    : IngestRun.health run
        = (run.ingestion.status.lastError.map fun text =>
            Health.degraded ("log source unavailable: " ++ text)).getD .healthy := by
  have hpos := h.pos_iff
  unfold IngestRun.health
  rw [if_neg (by simp [hended])]
  cases hlast : run.ingestion.status.lastError with
  | none =>
    rw [hlast] at hpos
    exact if_neg (by simp [hpos])
  | some text =>
    rw [hlast] at hpos
    exact if_pos (by simp [hpos])

theorem Pipeline.health_of_ledTo {pipeline : Pipeline} {run : IngestRun} {past : PastRun}
    (hstate : pipeline.state = .running) (hrun : pipeline.run = some run) (hended : run.ended = false)
    (hled : past.LedTo run.ingestion)
    : pipeline.health
        = ((past.ticks.getLast?.bind (failureOf? ·.answer)).map fun text =>
            Health.degraded ("log source unavailable: " ++ text)).getD .healthy := by
  rw [← hled.lastError_eq, ← health_of_tellsOf hended hled.status]
  unfold health
  rw [hstate, hrun]
  rfl

namespace PipelineHistory

variable {history : PipelineHistory} {described : LogSource}

/--
What runs is the latest run that has begun.
-/
structure Tracked (history : PipelineHistory) : Prop where
  running : ∀ run, history.pipeline.run = some run →
    ∃ past earlier, history.runs = past :: earlier ∧ past.LedTo run.ingestion
  idle : history.pipeline.run = none → history.pipeline.state ≠ .running

theorem Tracked.start (h : history.Tracked) (hdescribed : history.pipeline.settings.buildSource = .ok described)
    : (history.take .start).Tracked := by
  by_cases hstate : history.pipeline.state = .running
  . rwa [take_start_of_running hstate]
  . rw [take_start_of_not_running hstate hdescribed]
    refine ⟨?_, nofun⟩
    rintro run ⟨⟩
    exact ⟨_, _, rfl, .start _ _⟩

theorem Tracked.stop (h : history.Tracked) : (history.take .stop).Tracked := by
  unfold PipelineHistory.take Pipeline.take
  by_cases hstate : history.pipeline.state = .running
  . rw [Pipeline.stop_of_running hstate]
    exact ⟨nofun, fun _ => nofun⟩
  . rw [Pipeline.stop_of_not_running hstate]
    exact ⟨h.running, h.idle⟩

theorem Tracked.cancel (h : history.Tracked) : (history.take .cancel).Tracked := by
  refine ⟨?_, ?_⟩
  . intro run hrun
    obtain ⟨before, hbefore, rfl⟩ := Option.map_eq_some_iff.mp hrun
    exact h.running before hbefore
  . intro hrun
    exact h.idle (Option.map_eq_none_iff.mp hrun)

theorem Tracked.settle (h : history.Tracked) (host : Host) : (history.take (.settle host)).Tracked := by
  cases hdue : history.pipeline.dueRun? with
  | none => rwa [take_settle_of_not_due hdue]
  | some run =>
    obtain ⟨past, earlier, hruns, hled⟩ := h.running run (Pipeline.dueRun?_eq_some hdue).1
    -- the tick goes to the run at the head of the history
    rw [take_settle_of_due hdue, hruns]
    refine ⟨?_, nofun⟩
    rintro run ⟨⟩
    exact ⟨_, earlier, rfl, hled.tick host _ _⟩

theorem Tracked.take (h : history.Tracked) (hdescribed : history.pipeline.settings.buildSource = .ok described)
    (step : PipelineStep)
    : (history.take step).Tracked := by
  cases step with
  | start => exact h.start hdescribed
  | stop => exact h.stop
  | cancel => exact h.cancel
  | clock time => exact ⟨h.running, h.idle⟩
  | settle host => exact h.settle host
  | call call => exact ⟨h.running, h.idle⟩

theorem Tracked.takeAll (h : history.Tracked) {settings : PipelineSettings} {store : EventStore}
    {custom : Option LogSource} (hsound : history.Sound settings store custom described)
    (hdescribed : settings.buildSource = .ok described) (steps : List PipelineStep)
    : (history.takeAll steps).Tracked := by
  unfold PipelineHistory.takeAll
  induction steps generalizing history with
  | nil => exact h
  | cons step steps ih =>
    rw [List.foldl_cons]
    apply ih _ (hsound.take hdescribed step)
    apply h.take
    rw [hsound.settings_eq, hdescribed]

/--
A run that is not the first one, or that got no other source, has the source that the settings describe.
-/
theorem Sound.source_eq {settings : PipelineSettings} {store : EventStore} {custom : Option LogSource}
    (h : history.Sound settings store custom described) {past : PastRun} {earlier : List PastRun}
    (hruns : history.runs = past :: earlier) (hcustom : custom = none ∨ earlier ≠ [])
    : past.source = described := by
  cases earlier using List.reverseRecOn with
  | nil =>
    have hfirst := (h.sources [] past.source (by rw [hruns]; rfl)).1
    rw [hfirst, hcustom.resolve_right (by simp), Option.getD_none]
  | append_singleton between first =>
    have hlater := (h.sources (past.source :: between.map (·.source)) first.source (by simp [hruns])).2
    exact hlater _ List.mem_cons_self

theorem tracked_of_build {settings : PipelineSettings} {store : Option EventStore} {custom : Option LogSource}
    {stamps : StampSupply} {pipeline : Pipeline} (hbuild : Pipeline.build settings store custom stamps = .ok pipeline)
    : Tracked { pipeline } := by
  obtain ⟨-, rfl⟩ := Pipeline.build_eq_ok_iff.mp hbuild
  exact ⟨nofun, fun _ => nofun⟩

end PipelineHistory

namespace Pipeline

/--
Whatever happened to a pipeline, its status tells of the ticks of the run that goes on, and its health tells the error
of the last of them, if that one failed. A run of the source that the settings describe never fails if the
demonstration lines are to stand in for its log: they are served in the place of the first error. A new run is healthy.
-/
theorem health_follows_last_tick {settings : PipelineSettings} {store : Option EventStore} {custom : Option LogSource}
    {stamps : StampSupply} {pipeline : Pipeline}
    (hbuild : build settings store custom stamps = .ok pipeline) (steps : List PipelineStep)
    : let history := PipelineHistory.takeAll { pipeline } steps
      let now := history.pipeline
      (now.state = .running → ∃ run past earlier,
        now.run = some run ∧ history.runs = past :: earlier
          ∧
        (past.ticks.map (·.answer) = past.source.answers (past.ticks.map (·.host))
          ∧ ∀ tick ∈ past.ticks, tick.report.sourceError = failureOf? tick.answer)
          ∧
        run.ingestion.status.TellsOf (past.ticks.map (·.report))
          ∧
        (run.ended = false →
          now.health
            = ((past.ticks.getLast?.bind (failureOf? ·.answer)).map fun text =>
                Health.degraded ("log source unavailable: " ++ text)).getD .healthy)
          ∧
        (settings.demoFallback = true → settings.source ≠ .demo → custom = none ∨ earlier ≠ [] →
          (∃ primary, settings.primarySource = .ok primary
            ∧ past.ticks.map (·.answer) = covered false (primary.answers (past.ticks.map (·.host))))
            ∧ (∀ tick ∈ past.ticks, tick.report.sourceError = none)
            ∧ (run.ended = false → now.health = .healthy)))
        ∧
      (now.state ≠ .running →
        now.start.2.run.map (·.ingestion.status) = some {}
          ∧ (now.cancelled = false → now.start.2.health = .healthy)) := by
  obtain ⟨primary, hprimary⟩ := PipelineSettings.exists_primarySource (build_eq_ok_iff.mp hbuild).1
  have hdescribed := PipelineSettings.buildSource_of_primarySource hprimary
  intro history now
  have hstart := PipelineHistory.sound_of_build hbuild (settings.sourceOver primary)
  have hsound : history.Sound _ _ _ _ := hstart.takeAll hdescribed steps
  have htracked : history.Tracked := (PipelineHistory.tracked_of_build hbuild).takeAll hstart hdescribed steps
  constructor
  . intro hstate
    obtain ⟨run, hrun⟩ := Option.ne_none_iff_exists'.mp fun hnone => htracked.idle hnone hstate
    obtain ⟨past, earlier, hruns, hled⟩ := htracked.running run hrun
    have hhealth := fun hended => health_of_ledTo hstate hrun hended hled
    refine ⟨run, past, earlier, hrun, hruns, ⟨hled.answers_eq, hled.failures⟩, hled.status, hhealth, ?_⟩
    intro hfallback hkind hcustom
    have hsource := hsound.source_eq hruns hcustom
    rw [PipelineSettings.sourceOver, if_pos ⟨hfallback, hkind⟩] at hsource
    obtain ⟨hanswers, hread⟩ := hled.covered hsource
    refine ⟨⟨primary, hprimary, hanswers⟩, ?_, ?_⟩
    . intro tick htick
      rw [hled.failures tick htick, hread tick htick]
    . intro hended
      rw [hhealth hended]
      cases hlast : past.ticks.getLast? with
      | none => rfl
      | some tick =>
        rw [Option.bind_some, hread tick (List.mem_of_getLast? hlast)]
        rfl
  . intro hstate
    have hnow : now.settings.buildSource = .ok (settings.sourceOver primary) := by rw [← hdescribed, ← hsound.settings_eq]
    rw [start_of_not_running hstate hnow]
    refine ⟨rfl, ?_⟩
    intro hcancelled
    unfold health begun IngestRun.health
    simp [RunState.complaint?, hcancelled]

/-- There is no log file, and it is looked for twice. -/
theorem health_follows_last_tick_covered
    : let settings := { PipelineSettings.standard with demoFallback := true }
      let host : Host :=
        { file := fun _ => { status := .error .notFound, reading := .error .notFound }
          run := fun _ _ _ => .timedOut
          listen := .ok }
      ∃ pipeline, build settings none none ⟨fun _ => default, 0⟩ = .ok pipeline
        ∧
      let history := PipelineHistory.takeAll { pipeline } [.start, .settle host, .clock 60000, .settle host]
      history.runs.map (·.ticks.map (·.answer.map (·.length))) = [[.ok demoLines.length, .ok 0]]
        ∧ history.pipeline.health = .healthy := by
  intro settings host
  have hbuild := build_of_valid (by decide +kernel : settings.validate = .ok ()) none none ⟨fun _ => default, 0⟩
  obtain ⟨hrunning, -⟩ := health_follows_last_tick hbuild [.start, .settle host, .clock 60000, .settle host]
  obtain ⟨run, past, earlier, hrun, -, -, -, -, hcovered⟩ := hrunning (by decide +kernel)
  obtain ⟨-, -, hhealth⟩ := hcovered rfl (by decide) (.inl rfl)
  refine ⟨_, hbuild, ?_⟩
  intro history
  have hended : history.pipeline.run.map (·.ended) = some false := by decide +kernel
  refine ⟨by decide +kernel, hhealth ?_⟩
  rw [hrun] at hended
  exact Option.some.inj hended

end Pipeline

end WafWatch
