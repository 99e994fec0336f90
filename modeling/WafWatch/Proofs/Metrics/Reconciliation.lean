import WafWatch.Proofs.Ingest.Announcement
import WafWatch.Proofs.Metrics.Subscribers

/-!
This module contains the proof that the metrics agree with what they are about. Whatever ticks and test events bring
to the store of a process, and whatever the hub does meanwhile, the meter shows the numbers of the store and the hub
and the sums of the reports of the ticks.
-/

namespace WafWatch

/-! ### Measurements of the store -/

namespace EventStore

theorem fits_appendMeasurements (store : EventStore) : ∀ measurement ∈ store.appendMeasurements, measurement.Fits := by
  unfold appendMeasurements
  split <;> simp [Measurement.Fits, Metric.eventsEvicted, Metric.storeSize]

/--
What is measured when an event is appended shows the store after that.
-/
theorem recordAll_appendMeasurements {store : EventStore} (hcapacity : 0 < store.capacity) (event : SecurityEvent)
    {readings : Readings} (hevicted : readings.evicted = store.evicted)
    : readings.recordAll store.appendMeasurements
        = { readings with evicted := (store.append event).evicted, size := (store.append event).size } := by
  unfold appendMeasurements append
  split
  . next hfull =>
    have hsize : (store.events.drop 1 ++ [event]).length = store.size := by
      unfold isFull at hfull
      rw [decide_eq_true_eq] at hfull
      rw [List.length_append, List.length_drop, List.length_singleton]
      exact Nat.sub_add_cancel (Nat.le_trans hcapacity hfull)
    dsimp only
    unfold size
    dsimp only
    rw [hsize, ← hevicted]
    rfl
  . dsimp only
    unfold size
    dsimp only
    rw [List.length_append, ← hevicted]
    rfl

end EventStore

/-! ### Ticks and test events -/

/--
A tick that goes through the lines of its poll.
-/
structure OpenTick where
  lineLimit : Nat
  /-- The lines that the tick has still to go through. -/
  lines : List String
  report : TickReport

/--
A station, with the ticks that bring events to its store.
-/
structure Ledger where
  station : Station
  pending : List OpenTick := []
  /-- What the ticks reported that have ended. -/
  reports : List TickReport := []

/--
A step of a tick, of somebody who sends a test event, or of the hub.
-/
inductive LedgerStep where
  /-- A tick polls its source. If that fails, the tick ends. -/
  | poll (ingestion : Ingestion) (host : Host)
  /-- One of the ticks goes through its next lines. -/
  | lines (place count : Nat) (stamps : StampSupply)
  /-- One of the ticks ends, if it has gone through all its lines. -/
  | finish (place : Nat)
  /-- A tick from its beginning to its end, while nothing else happens. -/
  | tick (ingestion : Ingestion) (host : Host) (stamps : StampSupply)
  | test (input : TestEvent) (stamp : Stamp)
  | hub (step : StationStep)

namespace Ledger

def start (settings : LiveSettings) (capacity : Nat) (stamps : StampSupply) : Ledger where
  station := .ofSettings settings (.empty capacity) stamps

/--
The store becomes another, and something is measured.
-/
def adopt (ledger : Ledger) (store : EventStore) (measurements : List Measurement) : Ledger :=
  { ledger with
    station := { ledger.station with store, meter := ledger.station.meter.recordAll measurements } }

def poll (ledger : Ledger) (ingestion : Ingestion) (host : Host) : Ledger :=
  match (ingestion.source.poll host).1 with
  | .ok lines =>
    { ledger with
      pending := ledger.pending ++ [{
        lineLimit := ingestion.lineLimit
        lines
        report := { linesRead := lines.length } }] }
  | .error error =>
    { ledger.adopt ledger.station.store [.add ⟨.sourceErrors, none⟩ 1] with
      reports := ledger.reports ++ [{ sourceError := some error.message }] }

def lines (ledger : Ledger) (place count : Nat) (stamps : StampSupply) : Ledger :=
  match ledger.pending[place]? with
  | some tick =>
    let done := Ingesting.takeLines tick.lineLimit stamps
      { store := ledger.station.store, report := tick.report } (tick.lines.take count)
    { ledger.adopt done.store done.measurements.reverse with
      pending := ledger.pending.set place
        { tick with lines := tick.lines.drop count, report := done.report } }
  | none => ledger

def finish (ledger : Ledger) (place : Nat) : Ledger :=
  match ledger.pending[place]? with
  | some ⟨_, [], report⟩ =>
    { ledger.adopt ledger.station.store report.measurements with
      pending := ledger.pending.eraseIdx place
      reports := ledger.reports ++ [report] }
  | _ => ledger

def tick (ledger : Ledger) (ingestion : Ingestion) (host : Host) (stamps : StampSupply) : Ledger :=
  let tick := ingestion.tick host ledger.station.store stamps
  { ledger.adopt tick.store tick.measurements with reports := ledger.reports ++ [tick.report] }

def test (ledger : Ledger) (input : TestEvent) (stamp : Stamp) : Ledger :=
  let recording := ledger.station.store.recordTestEvent input stamp
  ledger.adopt recording.store recording.measurements

def step (ledger : Ledger) : LedgerStep → Ledger
  | .poll ingestion host => ledger.poll ingestion host
  | .lines place count stamps => ledger.lines place count stamps
  | .finish place => ledger.finish place
  | .tick ingestion host stamps => ledger.tick ingestion host stamps
  | .test input stamp => ledger.test input stamp
  | .hub step => { ledger with station := ledger.station.step step }

def run (ledger : Ledger) (steps : List LedgerStep) : Ledger :=
  steps.foldl step ledger

end Ledger

/-! ### Lines -/

/--
The report accounts for every line that was parsed, and tells of no error.
-/
structure TickReport.Balanced (report : TickReport) : Prop where
  parsed : report.parsed = report.stored + report.duplicates
  sourceError : report.sourceError = none

namespace Ingesting

/--
What holds after each line of a tick: what was measured shows the store, and what the tick stored is added to what
others did.
-/
structure Shows (before : Readings) (others : Nat) (s : Ingesting) : Prop where
  capacity : 0 < s.store.capacity
  fits : ∀ measurement ∈ s.measurements, measurement.Fits
  recordAll : before.recordAll s.measurements.reverse
    = { before with
        stored := others + s.report.stored
        evicted := s.store.evicted
        size := s.store.size }
  balanced : s.report.Balanced

variable {before : Readings} {others : Nat} {s : Ingesting}

theorem Shows.offer (h : s.Shows before others) (event : SecurityEvent) : (s.offer event).Shows before others := by
  have hparsed := h.balanced.parsed
  unfold Ingesting.offer
  rcases s.store.appendIfAbsent_cases event with hheld | hnew
  . rw [hheld]
    refine ⟨h.capacity, h.fits, h.recordAll, ⟨?_, h.balanced.sourceError⟩⟩
    dsimp only
    omega
  . rw [hnew]
    refine ⟨?_, ?_, ?_, ⟨?_, h.balanced.sourceError⟩⟩
    . dsimp only
      rw [EventStore.capacity_append]
      exact h.capacity
    . simp only [List.mem_cons, List.mem_append, List.mem_reverse]
      rintro measurement ((rfl | hnew) | hold)
      . rfl
      . exact s.store.fits_appendMeasurements measurement hnew
      . exact h.fits measurement hold
    . dsimp only
      rw [List.cons_append, List.reverse_cons, List.reverse_append, List.reverse_reverse, Readings.recordAll_append,
        Readings.recordAll_append, h.recordAll, EventStore.recordAll_appendMeasurements h.capacity event rfl]
      rfl
    . dsimp only
      omega

theorem Shows.takeLines (h : s.Shows before others) (limit : Nat) (stamps : StampSupply) (lines : List String) :
    (takeLines limit stamps s lines).Shows before others := by
  induction lines generalizing s stamps with
  | nil => exact h
  | cons line rest ih =>
    unfold Ingesting.takeLines
    cases eventOfLine limit stamps.next line with
    | some event => exact ih (h.offer event) (stamps.skip 1)
    | none => exact ih h (stamps.skip 1)

end Ingesting

/-! ### What holds at every moment -/

/--
The sum of a number of each item.
-/
def sumOf {α : Type} (number : α → Nat) (items : List α) : Nat :=
  items.foldr (fun item sum => number item + sum) 0

section

variable {α : Type} (number : α → Nat)

theorem sumOf_append (items more : List α) : sumOf number (items ++ more) = sumOf number items + sumOf number more := by
  induction items with
  | nil => exact (Nat.zero_add _).symm
  | cons item items ih =>
    change number item + sumOf number (items ++ more) = number item + sumOf number items + sumOf number more
    rw [ih, Nat.add_assoc]

theorem sumOf_singleton (item : α) : sumOf number [item] = number item := rfl

theorem sumOf_eraseIdx {items : List α} {place : Nat} {item : α} (hitem : items[place]? = some item) :
    sumOf number items = sumOf number (items.eraseIdx place) + number item := by
  induction items generalizing place with
  | nil => simp at hitem
  | cons first rest ih =>
    cases place with
    | zero =>
      cases hitem
      exact Nat.add_comm _ _
    | succ place =>
      change number first + sumOf number rest = number first + sumOf number (rest.eraseIdx place) + number item
      rw [ih hitem, Nat.add_assoc]

theorem sumOf_set {items : List α} {place : Nat} {item : α} (hitem : items[place]? = some item) (other : α) :
    sumOf number (items.set place other) = sumOf number (items.eraseIdx place) + number other := by
  have hplace := (List.getElem?_eq_some_iff.mp hitem).1
  rw [sumOf_eraseIdx number (List.getElem?_set_self hplace), List.eraseIdx_set_eq]

end

namespace Ledger

variable {ledger : Ledger}

/--
What the meter has to show.
-/
def expected (ledger : Ledger) : Readings where
  linesRead := sumOf (·.linesRead) ledger.reports
  parsed := sumOf (·.parsed) ledger.reports
  stored := sumOf (·.stored) ledger.reports + sumOf (·.report.stored) ledger.pending
  duplicates := sumOf (·.duplicates) ledger.reports
  sourceErrors := ledger.reports.countP (·.sourceError.isSome)
  durations := ledger.reports.countP (·.sourceError.isNone)
  evicted := ledger.station.store.evicted
  size := ledger.station.store.size
  subscribers := ledger.station.hub.clients

structure Sound (ledger : Ledger) : Prop where
  readings : ledger.station.meter.readings = ledger.expected
  capacity : 0 < ledger.station.store.capacity
  attended : ledger.station.Attended
  parsed : ∀ report ∈ ledger.reports, report.parsed = report.stored + report.duplicates
  pending : ∀ tick ∈ ledger.pending, tick.report.Balanced

theorem readings_adopt (ledger : Ledger) (store : EventStore) {measurements : List Measurement}
    (hfits : ∀ measurement ∈ measurements, measurement.Fits)
    : (ledger.adopt store measurements).station.meter.readings
        = ledger.station.meter.readings.recordAll measurements :=
  Meter.readings_recordAll ledger.station.meter hfits

theorem start_sound (settings : LiveSettings) (capacity : Nat) (stamps : StampSupply) :
    (start settings capacity stamps).Sound where
  readings := rfl
  capacity := Nat.le_max_right _ _
  attended := Station.attended_ofSettings _ _ _
  parsed := nofun
  pending := nofun

theorem Sound.poll (h : ledger.Sound) (ingestion : Ingestion) (host : Host) : (ledger.poll ingestion host).Sound := by
  unfold Ledger.poll
  split
  . next lines hpoll =>
    refine { h with readings := ?_, pending := ?_ }
    . change ledger.station.meter.readings = _
      rw [h.readings]
      unfold expected
      rw [sumOf_append]
      rfl
    . intro tick htick
      rcases List.mem_append.mp htick with hold | hnew
      . exact h.pending tick hold
      . rw [List.mem_singleton.mp hnew]
        exact ⟨rfl, rfl⟩
  . next error hpoll =>
    refine ⟨?_, h.capacity, h.attended.of_eq rfl, ?_, h.pending⟩
    . have hfits : Measurement.Fits (.add ⟨.sourceErrors, none⟩ 1) := rfl
      refine (ledger.readings_adopt _ (List.forall_mem_singleton.mpr hfits)).trans ?_
      rw [h.readings]
      unfold expected
      simp only [sumOf_append, List.countP_append]
      rfl
    . intro report hreport
      rcases List.mem_append.mp hreport with hold | hnew
      . exact h.parsed report hold
      . rw [List.mem_singleton.mp hnew]
        rfl

theorem Sound.lines (h : ledger.Sound) (place count : Nat) (stamps : StampSupply) :
    (ledger.lines place count stamps).Sound := by
  unfold Ledger.lines
  split
  . next tick htick =>
    -- what this tick has stored is set apart, since only that changes
    let others := sumOf (·.stored) ledger.reports + sumOf (·.report.stored) (ledger.pending.eraseIdx place)
    have hstart : Ingesting.Shows ledger.expected others { store := ledger.station.store, report := tick.report } := by
      refine ⟨h.capacity, nofun, ?_, h.pending tick (List.mem_of_getElem? htick)⟩
      unfold expected
      rw [sumOf_eraseIdx _ htick, ← Nat.add_assoc]
      rfl
    have hdone := hstart.takeLines tick.lineLimit stamps (tick.lines.take count)
    refine ⟨?_, hdone.capacity, h.attended.of_eq rfl, h.parsed, ?_⟩
    . refine (ledger.readings_adopt _ fun measurement hmeasurement =>
        hdone.fits measurement (List.mem_reverse.mp hmeasurement)).trans ?_
      rw [h.readings, hdone.recordAll]
      unfold expected
      dsimp only
      rw [sumOf_set _ htick, ← Nat.add_assoc]
      rfl
    . intro other hother
      rcases List.mem_or_eq_of_mem_set hother with hold | rfl
      . exact h.pending other hold
      . exact hdone.balanced
  . exact h

theorem Sound.finish (h : ledger.Sound) (place : Nat) : (ledger.finish place).Sound := by
  unfold Ledger.finish
  split
  . next lineLimit report htick =>
    have hbalanced : report.Balanced := h.pending _ (List.mem_of_getElem? htick)
    refine ⟨?_, h.capacity, h.attended.of_eq rfl, ?_, ?_⟩
    . have hfits : ∀ measurement ∈ report.measurements, measurement.Fits := by
        simp [TickReport.measurements, Measurement.Fits, Metric.linesRead, Metric.eventsParsed, Metric.duplicates,
          Metric.tickDuration]
      refine (ledger.readings_adopt _ hfits).trans ?_
      rw [h.readings]
      unfold expected
      simp only [sumOf_append, List.countP_append, sumOf_eraseIdx _ htick, sumOf_singleton, List.countP_singleton,
        hbalanced.sourceError]
      rw [← Nat.add_assoc, Nat.add_right_comm]
      rfl
    . intro other hother
      rcases List.mem_append.mp hother with hold | hnew
      . exact h.parsed other hold
      . rw [List.mem_singleton.mp hnew]
        exact hbalanced.parsed
    . intro other hother
      exact h.pending other (List.mem_of_mem_eraseIdx hother)
  . exact h

/--
A tick polls, goes through all the lines and ends.
-/
theorem tick_eq (ledger : Ledger) (ingestion : Ingestion) (host : Host) (stamps : StampSupply)
    : ∃ count, ledger.tick ingestion host stamps
        = ((ledger.poll ingestion host).lines ledger.pending.length count stamps).finish ledger.pending.length := by
  unfold Ledger.tick Ledger.poll Ingestion.tick
  cases hpoll : ingestion.source.poll host with
  | mk answer source =>
    cases answer with
    | ok lines =>
      -- the new tick is the last one that is pending, so nobody else is at its place
      refine ⟨lines.length, ?_⟩
      unfold Ledger.lines Ledger.finish Ledger.adopt Meter.recordAll
      simp [List.foldl_append, List.eraseIdx_append_of_length_le]
    | error error =>
      -- nobody is at the place of a tick that has failed
      refine ⟨0, ?_⟩
      unfold Ledger.lines Ledger.finish Ledger.adopt
      simp

theorem Sound.tick (h : ledger.Sound) (ingestion : Ingestion) (host : Host) (stamps : StampSupply) :
    (ledger.tick ingestion host stamps).Sound := by
  obtain ⟨count, htick⟩ := tick_eq ledger ingestion host stamps
  rw [htick]
  exact ((h.poll ingestion host).lines _ count stamps).finish _

theorem Sound.test (h : ledger.Sound) (input : TestEvent) (stamp : Stamp) : (ledger.test input stamp).Sound := by
  unfold Ledger.test
  rcases ledger.station.store.recordTestEvent_cases input stamp with hrefused | hrecorded
  . rw [hrefused]
    exact h
  . rw [hrecorded]
    refine ⟨?_, ?_, h.attended.of_eq rfl, h.parsed, h.pending⟩
    . refine (ledger.readings_adopt _ (EventStore.fits_appendMeasurements _)).trans ?_
      rw [h.readings, EventStore.recordAll_appendMeasurements h.capacity (input.toEvent stamp) rfl]
      rfl
    . dsimp only [adopt]
      rw [EventStore.capacity_append]
      exact h.capacity

theorem Sound.hub (h : ledger.Sound) (step : StationStep) :
    ({ ledger with station := ledger.station.step step } : Ledger).Sound := by
  have hshows := h.attended.shows_step step
  refine { h with readings := ?_, capacity := ?_, attended := hshows.attended }
  . change (ledger.station.step step).meter.readings = _
    rw [hshows.readings (congrArg Readings.subscribers h.readings), h.readings]
    unfold expected
    rw [hshows.store]
  . rw [hshows.store]
    exact h.capacity

theorem Sound.run (h : ledger.Sound) (steps : List LedgerStep) : (ledger.run steps).Sound := by
  unfold Ledger.run
  induction steps generalizing ledger with
  | nil => exact h
  | cons step steps ih =>
    refine ih ?_
    cases step with
    | poll ingestion host => exact h.poll ingestion host
    | lines place count stamps => exact h.lines place count stamps
    | finish place => exact h.finish place
    | tick ingestion host stamps => exact h.tick ingestion host stamps
    | test input stamp => exact h.test input stamp
    | hub step => exact h.hub step

theorem sumOf_parsed {reports : List TickReport}
    (h : ∀ report ∈ reports, report.parsed = report.stored + report.duplicates)
    : sumOf (·.parsed) reports = sumOf (·.stored) reports + sumOf (·.duplicates) reports := by
  induction reports with
  | nil => rfl
  | cons report reports ih =>
    rw [List.forall_mem_cons] at h
    have hrest := ih h.2
    unfold sumOf at *
    simp only [List.foldr_cons, h.1, hrest]
    omega

theorem countP_sourceError (reports : List TickReport)
    : reports.countP (·.sourceError.isSome) + reports.countP (·.sourceError.isNone) = reports.length := by
  rw [List.length_eq_countP_add_countP fun report : TickReport => report.sourceError.isSome]
  congr 1
  apply List.countP_congr
  intro report _
  simp

/--
Whatever ticks and test events bring to the store of a process, whatever happens at the hub meanwhile and however all
of that is interleaved: the meter shows what the store has evicted and what it holds, the sums of the reports of the
ticks, and the number of the subscribers. Of a tick that is going through its lines the stored events are counted
already, the rest is counted at its end. Test events are not counted.
-/
theorem start_run_reconciles (settings : LiveSettings) (capacity : Nat) (stamps : StampSupply)
    (steps : List LedgerStep)
    : let ledger := (start settings capacity stamps).run steps
      let meter := ledger.station.meter
      meter.figure ⟨.eventsEvicted, none⟩ = ledger.station.store.evicted
        ∧
      meter.figure ⟨.storeSize, none⟩ = ledger.station.store.size
        ∧
      meter.total .eventsStored attackTypeLabel
          = sumOf (·.stored) ledger.reports + sumOf (·.report.stored) ledger.pending
        ∧
      meter.figure ⟨.linesRead, none⟩ = sumOf (·.linesRead) ledger.reports
        ∧
      meter.figure ⟨.eventsParsed, none⟩ = sumOf (·.parsed) ledger.reports
        ∧
      meter.figure ⟨.duplicates, none⟩ = sumOf (·.duplicates) ledger.reports
        ∧
      meter.figure ⟨.eventsParsed, none⟩ + sumOf (·.report.stored) ledger.pending
          = meter.total .eventsStored attackTypeLabel + meter.figure ⟨.duplicates, none⟩
        ∧
      meter.figure ⟨.sourceErrors, none⟩ + meter.figure ⟨.tickDuration, none⟩ = ledger.reports.length
        ∧
      meter.figure ⟨.subscribers, none⟩ = ledger.station.hub.clients := by
  intro ledger meter
  have hsound : ledger.Sound := (start_sound settings capacity stamps).run steps
  have hreadings : meter.readings = ledger.expected := hsound.readings
  have hstored : meter.total .eventsStored attackTypeLabel = _ := congrArg Readings.stored hreadings
  have hparsed : meter.figure ⟨.eventsParsed, none⟩ = _ := congrArg Readings.parsed hreadings
  have hduplicates : meter.figure ⟨.duplicates, none⟩ = _ := congrArg Readings.duplicates hreadings
  have hfailed : meter.figure ⟨.sourceErrors, none⟩ = _ := congrArg Readings.sourceErrors hreadings
  have htimed : meter.figure ⟨.tickDuration, none⟩ = _ := congrArg Readings.durations hreadings
  refine ⟨congrArg Readings.evicted hreadings, congrArg Readings.size hreadings, hstored,
    congrArg Readings.linesRead hreadings, hparsed, hduplicates, ?_, ?_, congrArg Readings.subscribers hreadings⟩
  . rw [hparsed, hstored, hduplicates]
    dsimp only [expected]
    rw [sumOf_parsed hsound.parsed]
    exact Nat.add_right_comm _ _ _
  . rw [hfailed, htimed]
    exact countP_sourceError ledger.reports

/-- A tick stores one of two lines and is interrupted by a test event that evicts it; another tick fails. -/
example
    : let host : Host :=
        { file := fun _ => { status := .error .notFound, reading := .error .notFound }
          run := fun _ _ _ => .timedOut
          listen := .ok }
      let ingestion (answer : Except IngestError (List String)) : Ingestion :=
        { source := .scripted "script" [answer], lineLimit := 64 }
      let stamps : StampSupply := ⟨fun n => ⟨toString n, default⟩, 0⟩
      let line := "ModSecurity: Access denied"
      let steps : List LedgerStep := [.poll (ingestion (.ok [line, "noise"])) host, .lines 0 1 stamps,
        .test TestEvent.blank default, .lines 0 1 stamps, .finish 0, .tick (ingestion (.error default)) host stamps,
        .hub .resume, .hub (.post (.register default true)), .hub .handle]
      let ledger := (start { bindAddress := default } 1 stamps).run steps
      ledger.station.meter.readings
        = { linesRead := 2, parsed := 1, stored := 1, duplicates := 0, sourceErrors := 1, durations := 1
            evicted := 1, size := 1, subscribers := 1 } := by
  decide +kernel

end Ledger

end WafWatch
