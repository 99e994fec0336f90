import Mathlib.Data.List.Dedup
import Mathlib.Data.List.Perm.Subperm
import WafWatch.Proofs.Ingest.Announcement
import WafWatch.Proofs.Ingest.Contents
import WafWatch.Proofs.Ingest.Lifecycle
import WafWatch.Proofs.Source.Fallback
import WafWatch.Proofs.Source.FileTail

/-!
This module contains the proof that a log file is announced once. A store that is filled from one file alone, and has
room for its distinct lines, never gives up one of them. So when the file has been read, it may be read again by any
number of runs, and every line of it is found in the store.
-/

namespace WafWatch

/-! ### Stores with room for all texts -/

namespace EventStore

def rawLogs (store : EventStore) : List String :=
  store.events.map (·.rawLog)

/--
The store holds some of the given texts, each once, and has room for all of them.
-/
structure Gathers (store : EventStore) (texts : List String) : Prop where
  nodup : store.rawLogs.Nodup
  subset : store.rawLogs ⊆ texts
  fits : texts.dedup.length ≤ store.capacity

variable {store : EventStore} {texts : List String} {event : SecurityEvent} {events : List SecurityEvent}

theorem contains_iff_mem_rawLogs {rawLog : String} : store.contains rawLog = true ↔ rawLog ∈ store.rawLogs := by
  rw [contains_iff, rawLogs, List.mem_map]

theorem appendIfAbsent_of_mem (hheld : event.rawLog ∈ store.rawLogs) : (store.appendIfAbsent event).2 = store := by
  unfold appendIfAbsent
  rw [if_pos (contains_iff_mem_rawLogs.mpr hheld)]

/--
A text that is not held is one for which there is room.
-/
theorem Gathers.isFull_eq_false (h : store.Gathers texts) (htext : event.rawLog ∈ texts)
    (hnew : event.rawLog ∉ store.rawLogs)
    : store.isFull = false := by
  -- the new text and those that are held are distinct ones of the texts that all fit
  have hdistinct : (event.rawLog :: store.rawLogs).Nodup := List.nodup_cons.mpr ⟨hnew, h.nodup⟩
  have hsubset : event.rawLog :: store.rawLogs ⊆ texts.dedup := by
    intro text hmem
    rw [List.mem_dedup]
    exact List.cons_subset.mpr ⟨htext, h.subset⟩ hmem
  have hlength := (hdistinct.subperm hsubset).length_le
  have hfits := h.fits
  rw [List.length_cons, rawLogs, List.length_map] at hlength
  have hroom : ¬store.capacity ≤ store.size := by
    unfold size
    omega
  exact decide_eq_false hroom

theorem Gathers.append (h : store.Gathers texts) (htext : event.rawLog ∈ texts) (hnew : event.rawLog ∉ store.rawLogs)
    : (store.append event).Gathers texts ∧ (store.append event).rawLogs = store.rawLogs ++ [event.rawLog] := by
  have hrawLogs : (store.append event).rawLogs = store.rawLogs ++ [event.rawLog] := by
    simp [EventStore.append, h.isFull_eq_false htext hnew, rawLogs]
  refine ⟨⟨?_, ?_, ?_⟩, hrawLogs⟩
  . rw [hrawLogs]
    refine List.nodup_append.mpr ⟨h.nodup, List.nodup_singleton _, ?_⟩
    rintro rawLog hheld _ hone rfl
    exact hnew (List.mem_singleton.mp hone ▸ hheld)
  . rw [hrawLogs, List.append_subset]
    exact ⟨h.subset, by simpa using htext⟩
  . rw [capacity_append]
    exact h.fits

theorem Gathers.appendIfAbsent (h : store.Gathers texts) (htext : event.rawLog ∈ texts)
    : let after := (store.appendIfAbsent event).2
      after.Gathers texts ∧ store.rawLogs ⊆ after.rawLogs ∧ event.rawLog ∈ after.rawLogs := by
  by_cases hheld : event.rawLog ∈ store.rawLogs
  . rw [appendIfAbsent_of_mem hheld]
    exact ⟨h, List.Subset.refl _, hheld⟩
  . have hnew : (store.appendIfAbsent event).2 = store.append event := by
      unfold EventStore.appendIfAbsent
      rw [if_neg (by rwa [contains_iff_mem_rawLogs])]
    obtain ⟨hgathers, hrawLogs⟩ := h.append htext hheld
    dsimp only
    rw [hnew, hrawLogs]
    exact ⟨hgathers, List.subset_append_left _ _, List.mem_append_right _ List.mem_cons_self⟩

/--
Events of known texts are all held in the end.
-/
theorem Gathers.offerAll (h : store.Gathers texts) (htexts : events.map (·.rawLog) ⊆ texts)
    : let after := (events.map .appendIfAbsent).foldl serve store
      after.Gathers texts ∧ store.rawLogs ⊆ after.rawLogs ∧ events.map (·.rawLog) ⊆ after.rawLogs := by
  induction events generalizing store with
  | nil => exact ⟨h, List.Subset.refl _, List.nil_subset _⟩
  | cons event events ih =>
    rw [List.map_cons, List.cons_subset] at htexts
    obtain ⟨hone, hkept, hheld⟩ := h.appendIfAbsent htexts.1
    obtain ⟨hall, hkept', hheld'⟩ := ih hone htexts.2
    exact ⟨hall, List.Subset.trans hkept hkept', List.cons_subset.mpr ⟨hkept' hheld, hheld'⟩⟩

theorem offerAll_of_held (hheld : events.map (·.rawLog) ⊆ store.rawLogs)
    : (events.map .appendIfAbsent).foldl serve store = store := by
  induction events with
  | nil => rfl
  | cons event events ih =>
    rw [List.map_cons, List.cons_subset] at hheld
    rw [List.map_cons, List.foldl_cons, serve, appendIfAbsent_of_mem hheld.1, ih hheld.2]

end EventStore

/-! ### Lines that hold events -/

/--
Whether a line holds an event.
-/
def AuditLine.isAccepted (limit : Nat) (line : String) : Bool :=
  (parse limit default line).isSome

theorem rawLogs_eventsOfLines (limit : Nat) (stamps : StampSupply) (lines : List String)
    : (eventsOfLines limit stamps lines).map (·.rawLog) = lines.filter (AuditLine.isAccepted limit) := by
  induction lines generalizing stamps with
  | nil => rfl
  | cons line rest ih =>
    have haccepted := isSome_eventOfLine limit stamps.next default line
    unfold eventsOfLines
    rw [List.map_append, ih]
    cases hline : eventOfLine limit stamps.next line with
    | none =>
      rw [hline] at haccepted
      rw [List.filter_cons_of_neg (by simp [AuditLine.isAccepted, ← haccepted])]
      rfl
    | some event =>
      rw [hline] at haccepted
      rw [List.filter_cons_of_pos (by simp [AuditLine.isAccepted, ← haccepted]), ← rawLog_of_eventOfLine hline]
      rfl

/--
The texts that a file brings to a store.
-/
def LogFile.acceptedTexts (file : LogFile) (limit : Nat) : List String :=
  (completeLines limit file.octets).filter (AuditLine.isAccepted limit)

namespace Ingestion

variable {ingestion : Ingestion} {host : Host} {source : LogSource} {store : EventStore} {stamps : StampSupply}

theorem candidates_of_poll {answer : Except IngestError (List String)}
    (hpoll : ingestion.source.poll host = (answer, source)) (stamps : StampSupply)
    : (Intake.tick ingestion host stamps).candidates
        = eventsOfLines ingestion.lineLimit stamps (answer.toOption.getD []) := by
  simp only [Intake.candidates, hpoll]
  cases answer <;> rfl

/--
A tick that leaves the store as it was has found nothing new.
-/
theorem tick_of_store_eq (hstore : (ingestion.tick host store stamps).store = store)
    : let tick := ingestion.tick host store stamps
      tick.announced = [] ∧ tick.report.stored = 0 ∧ tick.report.duplicates = tick.report.parsed := by
  intro tick
  cases hpoll : ingestion.source.poll host with
  | mk answer source =>
    cases answer with
    | ok lines =>
      obtain ⟨hannounced, haccounts⟩ := tick_accounts hpoll store stamps
      have hlength := congrArg EventStore.appended hannounced
      have hstored := haccounts.stored
      have hverdicts := haccounts.verdicts
      rw [hstore, EventStore.appended_foldl_append] at hlength
      rw [hstore] at hstored
      have hnone : tick.announced.length = 0 := Nat.add_eq_left.mp hlength.symm
      have hstored : tick.report.stored = 0 := Nat.add_eq_left.mp hstored.symm
      rw [hstored, Nat.zero_add] at hverdicts
      exact ⟨List.length_eq_zero_iff.mp hnone, hstored, hverdicts.symm⟩
    | error error =>
      have hreport : tick.report = _ := tick_report_of_error hpoll store stamps
      rw [hreport]
      exact ⟨(tick_of_error hpoll store stamps).2.2.2, rfl, rfl⟩

end Ingestion

/-! ### Runs that follow the file -/

/--
The tail of a source that follows a file.
-/
def LogSource.tail? : LogSource → Option FileTail
  | .file tail => some tail
  | .fallback primary _ => primary.tail?
  | _ => none

namespace PipelineSettings

variable {settings : PipelineSettings} {tail : FileTail}

theorem tail?_sourceOver : (settings.sourceOver (.file tail)).tail? = some tail := by
  unfold sourceOver
  split <;> rfl

theorem poll_sourceOver {tail' : FileTail} {host : Host} {answer : Except IngestError (List String)}
    (hpoll : tail.poll (host.file tail.path) = (answer, tail'))
    (hread : settings.demoFallback = true → answer.isOk = true)
    : (settings.sourceOver (.file tail)).poll host = (answer, settings.sourceOver (.file tail')) := by
  have hfile : (LogSource.file tail).poll host = (answer, .file tail') := by
    unfold LogSource.poll
    rw [hpoll]
  unfold sourceOver
  split
  . next hfallback =>
    cases answer with
    | ok lines => exact LogSource.poll_fallback_of_ok hfile _
    | error error => exact absurd (hread hfallback.1) Bool.false_ne_true
  . exact hfile

end PipelineSettings

/--
What happens to a pipeline brings nothing to its store but lines of the file, which may have been shorter before. If
the demonstration lines are to stand in for the file, it can be read.
-/
def PipelineStep.FeedsFrom (settings : PipelineSettings) (file : LogFile) : PipelineStep → Prop
  | .settle host =>
    ∃ part : LogFile, part.IsPartOf file
      ∧ part.SeenAs (host.file settings.logFile)
      ∧ (settings.demoFallback = true → host.file settings.logFile = part.view)
  | .call _ => False
  | _ => True

/--
The ingestion follows the log file of settings with a tail.
-/
structure Ingestion.Follows (ingestion : Ingestion) (settings : PipelineSettings) (tail : FileTail) : Prop where
  lineLimit_eq : ingestion.lineLimit = settings.maxLineLength
  source_eq : ingestion.source = settings.sourceOver (.file tail)
  path_eq : tail.path = settings.logFile
  limit_eq : tail.limit = settings.maxLineLength

namespace Ingestion.Follows

variable {ingestion : Ingestion} {settings : PipelineSettings} {tail : FileTail} {file : LogFile}
  {lines : List String} {host : Host}

/--
A tick reads on in the file, or starts again with it.
-/
theorem tick (h : ingestion.Follows settings tail) (hcaught : tail.Caught file lines)
    (hfeeds : PipelineStep.FeedsFrom settings file (.settle host)) (store : EventStore) (stamps : StampSupply)
    : ∃ tail' kept new,
        (ingestion.tick host store stamps).ingestion.Follows settings tail'
          ∧ tail'.Caught file (kept ++ new) ∧ (kept = lines ∨ kept = [])
          ∧ (Intake.tick ingestion host stamps).candidates.map (·.rawLog)
              = new.filter (AuditLine.isAccepted settings.maxLineLength) := by
  obtain ⟨part, hpart, hseen, hview⟩ := hfeeds
  rw [← h.path_eq] at hseen hview
  cases hpoll : tail.poll (host.file tail.path) with
  | mk answer tail' =>
    have hread : settings.demoFallback = true → answer.isOk = true := by
      intro hfallback
      obtain ⟨found, next, hfound⟩ := tail.poll_view part
      rw [hview hfallback, hfound] at hpoll
      rw [← (Prod.mk.inj hpoll).1]
      rfl
    have hsource := PipelineSettings.poll_sourceOver hpoll hread
    rw [← h.source_eq] at hsource
    obtain ⟨kept, hkept, hcaught'⟩ := hcaught.poll_part hpart hseen hpoll
    have hframe := tail.poll_frame hseen
    rw [hpoll] at hframe
    have hingestion : (ingestion.tick host store stamps).ingestion = _ := ingestion.tick_ingestion host store stamps
    refine ⟨tail', kept, _, ⟨?_, ?_, hframe.1.trans h.path_eq, hframe.2.trans h.limit_eq⟩, hcaught', hkept, ?_⟩
    . rw [hingestion]
      exact h.lineLimit_eq
    . rw [hingestion, hsource]
    . rw [candidates_of_poll hsource, rawLogs_eventsOfLines, h.lineLimit_eq]

/--
Whatever a tick offers to the store is a line of the file.
-/
theorem candidates_subset (h : ingestion.Follows settings tail) (hcaught : tail.Caught file lines)
    (hfeeds : PipelineStep.FeedsFrom settings file (.settle host)) (stamps : StampSupply)
    : (Intake.tick ingestion host stamps).candidates.map (·.rawLog) ⊆ file.acceptedTexts settings.maxLineLength := by
  obtain ⟨tail', kept, new, hfollows, hcaught', -, hcandidates⟩ := h.tick hcaught hfeeds (.empty 0) stamps
  have hsubset := (List.append_subset.mp hcaught'.subset).2
  rw [hfollows.limit_eq] at hsubset
  rw [hcandidates]
  exact List.filter_subset _ hsubset

end Ingestion.Follows

namespace Pipeline

variable {pipeline : Pipeline} {settings : PipelineSettings} {file : LogFile}

/--
The tail with which the run of a pipeline follows a file.
-/
def tail? (pipeline : Pipeline) : Option FileTail :=
  pipeline.run.bind (·.ingestion.source.tail?)

/--
What holds at all times of a pipeline whose store is filled from one file: the store holds what the run has read.
-/
structure Gathers (pipeline : Pipeline) (settings : PipelineSettings) (file : LogFile) : Prop where
  settings_eq : pipeline.settings = settings
  custom_eq : pipeline.customSource = none
  store : pipeline.store.Gathers (file.acceptedTexts settings.maxLineLength)
  run : ∀ run, pipeline.run = some run → ∃ tail lines,
    run.ingestion.Follows settings tail ∧ tail.Caught file lines
      ∧ lines.filter (AuditLine.isAccepted settings.maxLineLength) ⊆ pipeline.store.rawLogs

theorem gathers_of_build {store : Option EventStore} {stamps : StampSupply} {capacity : Nat}
    (hbuild : build settings store none stamps = .ok pipeline) (hstore : pipeline.store = .empty capacity)
    (hfits : (file.acceptedTexts settings.maxLineLength).dedup.length ≤ pipeline.store.capacity)
    : pipeline.Gathers settings file := by
  have hrawLogs : pipeline.store.rawLogs = [] := by
    rw [hstore]
    rfl
  have hgathers : pipeline.store.Gathers (file.acceptedTexts settings.maxLineLength) :=
    ⟨hrawLogs ▸ List.nodup_nil, hrawLogs ▸ List.nil_subset _, hfits⟩
  obtain ⟨-, rfl⟩ := build_eq_ok_iff.mp hbuild
  exact ⟨rfl, rfl, hgathers, nofun⟩

theorem Gathers.start (h : pipeline.Gathers settings file) (hfile : settings.source = .file) :
    pipeline.start.2.Gathers settings file := by
  by_cases hstate : pipeline.state = .running
  . rwa [start_of_running hstate]
  . have hprimary := PipelineSettings.primarySource_of_file hfile
    have hdescribed := PipelineSettings.buildSource_of_primarySource hprimary
    rw [start_of_not_running hstate (by rw [h.settings_eq, hdescribed]), h.custom_eq]
    refine ⟨h.settings_eq, rfl, h.store, ?_⟩
    rintro run ⟨⟩
    refine ⟨_, [], ⟨?_, rfl, rfl, rfl⟩, FileTail.caught_new _ _ file, List.nil_subset _⟩
    exact congrArg PipelineSettings.maxLineLength h.settings_eq

theorem Gathers.settle (h : pipeline.Gathers settings file) {host : Host}
    (hfeeds : PipelineStep.FeedsFrom settings file (.settle host))
    : (pipeline.settle host).Gathers settings file := by
  rw [settle_eq]
  cases hdue : pipeline.dueRun? with
  | none => exact h
  | some run =>
    obtain ⟨tail, lines, hfollows, hcaught, hlines⟩ := h.run run (dueRun?_eq_some hdue).1
    obtain ⟨tail', kept, new, hfollows', hcaught', hkept, hcandidates⟩ :=
      hfollows.tick hcaught hfeeds pipeline.store pipeline.stamps
    have htexts := hfollows.candidates_subset hcaught hfeeds pipeline.stamps
    -- the tick keeps what is held, and adds what it has read
    obtain ⟨hgathers, hheld, hnew⟩ := h.store.offerAll htexts
    rw [← Ingestion.tick_store] at hgathers hheld hnew
    refine ⟨h.settings_eq, h.custom_eq, hgathers, ?_⟩
    rintro _ ⟨⟩
    refine ⟨tail', kept ++ new, hfollows', hcaught', ?_⟩
    rw [List.filter_append, List.append_subset, ← hcandidates]
    refine ⟨?_, hnew⟩
    rcases hkept with rfl | rfl
    . exact List.Subset.trans hlines hheld
    . exact List.nil_subset _

theorem Gathers.take (h : pipeline.Gathers settings file) (hfile : settings.source = .file) {step : PipelineStep}
    (hfeeds : step.FeedsFrom settings file)
    : (pipeline.take step).Gathers settings file := by
  cases step with
  | start => exact h.start hfile
  | stop =>
    unfold Pipeline.take
    by_cases hstate : pipeline.state = .running
    . rw [stop_of_running hstate]
      exact ⟨h.settings_eq, h.custom_eq, h.store, nofun⟩
    . rwa [stop_of_not_running hstate]
  | cancel =>
    refine ⟨h.settings_eq, h.custom_eq, h.store, ?_⟩
    intro run hrun
    obtain ⟨before, hbefore, rfl⟩ := Option.map_eq_some_iff.mp hrun
    obtain ⟨tail, lines, hfollows, hrest⟩ := h.run before hbefore
    exact ⟨tail, lines, ⟨hfollows.lineLimit_eq, hfollows.source_eq, hfollows.path_eq, hfollows.limit_eq⟩, hrest⟩
  | clock time => exact ⟨h.settings_eq, h.custom_eq, h.store, h.run⟩
  | settle host => exact h.settle hfeeds
  | call call => exact hfeeds.elim

theorem Gathers.takeAll (h : pipeline.Gathers settings file) (hfile : settings.source = .file)
    {steps : List PipelineStep} (hsteps : ∀ step ∈ steps, step.FeedsFrom settings file)
    : (pipeline.takeAll steps).Gathers settings file := by
  unfold Pipeline.takeAll
  induction steps generalizing pipeline with
  | nil => exact h
  | cons step steps ih =>
    rw [List.forall_mem_cons] at hsteps
    exact ih (h.take hfile hsteps.1) hsteps.2

/-! ### When the file has been read -/

/--
The store holds all that the file can bring to it.
-/
def HoldsAll (pipeline : Pipeline) (settings : PipelineSettings) (file : LogFile) : Prop :=
  file.acceptedTexts settings.maxLineLength ⊆ pipeline.store.rawLogs

theorem Gathers.holdsAll (h : pipeline.Gathers settings file)
    (hread : pipeline.tail?.map (·.offset) = some file.octets.length)
    : pipeline.HoldsAll settings file := by
  obtain ⟨now, hnow, hoffset⟩ := Option.map_eq_some_iff.mp hread
  obtain ⟨run, hrun, htail⟩ := Option.bind_eq_some_iff.mp hnow
  obtain ⟨tail, lines, hfollows, hcaught, hlines⟩ := h.run run hrun
  rw [hfollows.source_eq, PipelineSettings.tail?_sourceOver, Option.some.injEq] at htail
  subst htail
  rw [hcaught.lines, hoffset, List.take_length, hfollows.limit_eq] at hlines
  exact hlines

/--
A tick that is due finds nothing new.
-/
theorem Gathers.store_of_holdsAll (h : pipeline.Gathers settings file) (hheld : pipeline.HoldsAll settings file)
    {host : Host} (hfeeds : PipelineStep.FeedsFrom settings file (.settle host)) {run : IngestRun}
    (hdue : pipeline.dueRun? = some run)
    : (run.ingestion.tick host pipeline.store pipeline.stamps).store = pipeline.store := by
  obtain ⟨tail, lines, hfollows, hcaught, -⟩ := h.run run (dueRun?_eq_some hdue).1
  have htexts := hfollows.candidates_subset hcaught hfeeds pipeline.stamps
  rw [Ingestion.tick_store]
  exact EventStore.offerAll_of_held (List.Subset.trans htexts hheld)

theorem Gathers.take_of_holdsAll (h : pipeline.Gathers settings file) (hheld : pipeline.HoldsAll settings file)
    {step : PipelineStep} (hfeeds : step.FeedsFrom settings file)
    : (pipeline.take step).store = pipeline.store ∧ (pipeline.take step).announced = pipeline.announced := by
  cases step with
  | start => exact pipeline.start_frame
  | stop => exact pipeline.stop_frame.2.2
  | cancel => exact ⟨rfl, rfl⟩
  | clock time => exact ⟨rfl, rfl⟩
  | settle host =>
    show (pipeline.settle host).store = _ ∧ (pipeline.settle host).announced = _
    rw [settle_eq]
    cases hdue : pipeline.dueRun? with
    | none => exact ⟨rfl, rfl⟩
    | some run =>
      have hstore := h.store_of_holdsAll hheld hfeeds hdue
      refine ⟨hstore, ?_⟩
      show pipeline.announced ++ _ = pipeline.announced
      rw [(Ingestion.tick_of_store_eq hstore).1, List.append_nil]
  | call call => exact hfeeds.elim

theorem Gathers.takeAll_of_holdsAll (h : pipeline.Gathers settings file) (hheld : pipeline.HoldsAll settings file)
    (hfile : settings.source = .file) {steps : List PipelineStep}
    (hsteps : ∀ step ∈ steps, step.FeedsFrom settings file)
    : (pipeline.takeAll steps).store = pipeline.store ∧ (pipeline.takeAll steps).announced = pipeline.announced := by
  unfold Pipeline.takeAll
  induction steps generalizing pipeline with
  | nil => exact ⟨rfl, rfl⟩
  | cons step steps ih =>
    rw [List.forall_mem_cons] at hsteps
    obtain ⟨hstore, hannounced⟩ := h.take_of_holdsAll hheld hsteps.1
    rw [List.foldl_cons, ← hstore, ← hannounced]
    apply ih (h.take hfile hsteps.1) _ hsteps.2
    unfold HoldsAll
    rwa [hstore]

/--
A log file that has been read is not announced again. A new store is filled from nothing but one file, and has room for
the distinct lines of it that hold events. Once a run has read all of the file, whatever happens to the pipeline leaves
the store as it is and announces nothing, however often the file is read by other runs: every tick finds duplicates only.
-/
theorem rereading_announces_nothing {settings : PipelineSettings} {store : Option EventStore} {stamps : StampSupply}
    {pipeline : Pipeline} {file : LogFile} {capacity : Nat} {first again : List PipelineStep}
    (hbuild : build settings store none stamps = .ok pipeline) (hfile : settings.source = .file)
    (hstore : pipeline.store = .empty capacity)
    (hfits : (file.acceptedTexts settings.maxLineLength).dedup.length ≤ pipeline.store.capacity)
    (hfirst : ∀ step ∈ first, step.FeedsFrom settings file)
    (hread : (pipeline.takeAll first).tail?.map (·.offset) = some file.octets.length)
    (hagain : ∀ step ∈ again, step.FeedsFrom settings file)
    : let before := pipeline.takeAll first
      let after := before.takeAll again
      after.store = before.store
        ∧
      after.announced = before.announced
        ∧
      (∀ earlier host later, again = earlier ++ .settle host :: later →
        ∀ tick, (before.takeAll earlier).dueTick? host = some tick →
          tick.report.stored = 0 ∧ tick.report.duplicates = tick.report.parsed
            ∧ tick.announced = [] ∧ tick.store = before.store) := by
  intro before after
  have hbefore : before.Gathers settings file := (gathers_of_build hbuild hstore hfits).takeAll hfile hfirst
  have hheld := hbefore.holdsAll hread
  obtain ⟨hafter, hannounced⟩ := hbefore.takeAll_of_holdsAll hheld hfile hagain
  refine ⟨hafter, hannounced, ?_⟩
  intro earlier host later hagain' tick htick
  rw [hagain', List.forall_mem_append, List.forall_mem_cons] at hagain
  obtain ⟨hearlier, hfeeds, -⟩ := hagain
  obtain ⟨run, hdue, rfl⟩ := Option.map_eq_some_iff.mp htick
  have hnow := hbefore.takeAll hfile hearlier
  have hkept := (hbefore.takeAll_of_holdsAll hheld hfile hearlier).1
  have hheld' : (before.takeAll earlier).HoldsAll settings file := by
    unfold HoldsAll
    rwa [hkept]
  have hsame := hnow.store_of_holdsAll hheld' hfeeds hdue
  obtain ⟨hnone, hstored, hduplicates⟩ := Ingestion.tick_of_store_eq hsame
  exact ⟨hstored, hduplicates, hnone, hsame.trans hkept⟩

/-- A line that comes twice is read by two runs, and there is room for one event. -/
theorem rereading_announces_nothing_restarted
    : let settings := { PipelineSettings.standard with storeCapacity := 1 }
      let line := "ModSecurity: Access denied\nGET /\nModSecurity: Access denied\n"
      let file : LogFile := ⟨1, line.toList.map fun c => UInt8.ofNat c.toNat⟩
      let host : Host := { file := fun _ => file.view, run := fun _ _ _ => .timedOut, listen := .ok }
      ∃ pipeline, build settings none none ⟨fun _ => default, 0⟩ = .ok pipeline
        ∧
      let before := pipeline.takeAll [.start, .settle host]
      let after := before.takeAll [.stop, .start, .settle host]
      after.store = before.store ∧ after.announced = before.announced ∧ before.announced.length = 1
        ∧
      ∃ tick, (before.takeAll [.stop, .start]).dueTick? host = some tick
        ∧ tick.report.stored = 0 ∧ tick.report.duplicates = tick.report.parsed ∧ tick.report.parsed = 2 := by
  intro settings line file host
  have hbuild := build_of_valid (by decide +kernel : settings.validate = .ok ()) none none ⟨fun _ => default, 0⟩
  have hfeeds : PipelineStep.FeedsFrom settings file (.settle host) :=
    ⟨file, file.isPartOf_refl, file.seenAs_view, fun _ => rfl⟩
  have hfirst : ∀ step ∈ [.start, .settle host], PipelineStep.FeedsFrom settings file step :=
    List.forall_mem_cons.mpr ⟨trivial, List.forall_mem_singleton.mpr hfeeds⟩
  have hagain : ∀ step ∈ [.stop, .start, .settle host], PipelineStep.FeedsFrom settings file step :=
    List.forall_mem_cons.mpr ⟨trivial, List.forall_mem_cons.mpr ⟨trivial, List.forall_mem_singleton.mpr hfeeds⟩⟩
  obtain ⟨hstore, hannounced, hticks⟩ :=
    rereading_announces_nothing hbuild rfl rfl (by decide +kernel) hfirst (by decide +kernel) hagain
  refine ⟨_, hbuild, ?_⟩
  intro before after
  have hparsed : ((before.takeAll [.stop, .start]).dueTick? host).map (·.report.parsed) = some 2 := by decide +kernel
  obtain ⟨tick, htick, hparsed⟩ := Option.map_eq_some_iff.mp hparsed
  obtain ⟨hstored, hduplicates, -⟩ := hticks [.stop, .start] host [] rfl tick htick
  exact ⟨hstore, hannounced, by decide +kernel, tick, htick, hstored, hduplicates, hparsed⟩

end Pipeline

end WafWatch
