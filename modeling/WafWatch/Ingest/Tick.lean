import WafWatch.Attack.Classification
import WafWatch.Audit.Line
import WafWatch.Source.Basic
import WafWatch.Store.Basic

/-!
This module contains one tick of the ingestion: the log source is polled, the lines it returns are
read and classified, and the events that are new are stored and announced.
-/

namespace WafWatch

/-! ### Reports -/

/--
What a tick did.
-/
structure TickReport where
  linesRead : Nat := 0
  parsed : Nat := 0
  stored : Nat := 0
  duplicates : Nat := 0
  sourceError : Option String := none
  deriving DecidableEq, Repr, Inhabited

/--
What is known of the ticks so far.
-/
structure IngestStatus where
  ticks : Nat := 0
  /-- The number of failed ticks since the last one that did not fail. -/
  consecutiveErrors : Nat := 0
  /-- The error of the last tick, if it failed. -/
  lastError : Option String := none
  deriving DecidableEq, Repr, Inhabited

def IngestStatus.record (status : IngestStatus) (report : TickReport) : IngestStatus :=
  match report.sourceError with
  | some error =>
    { ticks := status.ticks + 1
      consecutiveErrors := status.consecutiveErrors + 1
      lastError := some error }
  | none => { ticks := status.ticks + 1, consecutiveErrors := 0, lastError := none }

/-! ### Lines -/

namespace SecurityEvent

/--
The text in which attacks are looked for if the rule does not tell: the request target, or the message
of a rule if there is no target.
-/
def target (event : SecurityEvent) : String :=
  if event.url.isEmpty then event.message else event.url

def category (event : SecurityEvent) : AttackCategory :=
  AttackCategory.classify event.ruleId.toList event.target.toList

def classified (event : SecurityEvent) : SecurityEvent :=
  { event with attackType := event.category.label }

end SecurityEvent

/--
The classified event of a line.
-/
def eventOfLine (limit : Nat) (stamp : Stamp) (line : String) : Option SecurityEvent :=
  (AuditLine.parse limit stamp line).map SecurityEvent.classified

/--
The state of a tick that is going through the lines of a poll.
-/
structure Ingesting where
  store : EventStore
  report : TickReport
  /-- The events that were stored, the latest first. -/
  announced : List SecurityEvent := []
  /-- What was measured, the latest first. -/
  measurements : List Measurement := []

namespace Ingesting

/--
Store and announce an event, unless its line is held.
-/
def offer (s : Ingesting) (event : SecurityEvent) : Ingesting :=
  match s.store.appendIfAbsent event with
  | (true, store) =>
    { store
      report := { s.report with parsed := s.report.parsed + 1, stored := s.report.stored + 1 }
      announced := event :: s.announced
      measurements :=
        .add ⟨.eventsStored, some (attackTypeLabel, event.attackType)⟩ 1 ::
          s.store.appendMeasurements.reverse ++ s.measurements }
  | (false, store) =>
    { s with
      store
      report :=
        { s.report with parsed := s.report.parsed + 1, duplicates := s.report.duplicates + 1 } }

/--
Go through lines, each of which uses up one stamp.
-/
def takeLines (limit : Nat) (stamps : StampSupply) (s : Ingesting) : List String → Ingesting
  | [] => s
  | line :: rest =>
    let s := match eventOfLine limit stamps.next line with
      | some event => s.offer event
      | none => s
    takeLines limit (stamps.skip 1) s rest

end Ingesting

/-! ### Ticks -/

/--
The part of the ingestion that one run of it keeps to itself.
-/
structure Ingestion where
  source : LogSource
  /-- The number of octets up to which lines are read. -/
  lineLimit : Nat
  status : IngestStatus := {}

/--
The outcome of a tick.
-/
structure Tick where
  ingestion : Ingestion
  store : EventStore
  stamps : StampSupply
  report : TickReport
  /-- The events that were stored, which are announced in this order. -/
  announced : List SecurityEvent
  measurements : List Measurement

def TickReport.measurements (report : TickReport) : List Measurement :=
  [.add ⟨.linesRead, none⟩ report.linesRead, .add ⟨.eventsParsed, none⟩ report.parsed,
    .add ⟨.duplicates, none⟩ report.duplicates, .sample ⟨.tickDuration, none⟩]

def Ingestion.tick (ingestion : Ingestion) (host : Host) (store : EventStore)
    (stamps : StampSupply) : Tick :=
  match ingestion.source.poll host with
  | (.error error, source) =>
    let report : TickReport := { sourceError := some error.message }
    { ingestion := { ingestion with source, status := ingestion.status.record report }
      store, stamps, report
      announced := []
      measurements := [.add ⟨.sourceErrors, none⟩ 1] }
  | (.ok lines, source) =>
    let done := Ingesting.takeLines ingestion.lineLimit stamps
      { store, report := { linesRead := lines.length } } lines
    { ingestion := { ingestion with source, status := ingestion.status.record done.report }
      store := done.store
      stamps := stamps.skip lines.length
      report := done.report
      announced := done.announced.reverse
      measurements := done.measurements.reverse ++ done.report.measurements }

end WafWatch
