import WafWatch.Ingest.Tick
import WafWatch.Proofs.Store.History

/-!
This module contains the ingestion of lines one at a time. The lines of a tick go through the same steps,
and apart from stamps the outcome is a matter of the events that the lines hold.
-/

namespace WafWatch

/-! ### Stamps -/

/--
The event without what it has from its stamp: the identifier, and the time unless its line tells one.
-/
def SecurityEvent.unstamped (event : SecurityEvent) : SecurityEvent :=
  { event with
    id := ""
    timestamp :=
      if (AuditLine.time? event.rawLog.toList).isSome then event.timestamp else default }

def eventIn (limit : Nat) (line : String) : Option SecurityEvent :=
  (eventOfLine limit default line).map SecurityEvent.unstamped

theorem unstamped_classified_toEvent (stamp stamp' : Stamp) (line : List Char)
    : (AuditLine.toEvent stamp line).classified.unstamped
        =
      (AuditLine.toEvent stamp' line).classified.unstamped := by
  unfold SecurityEvent.unstamped SecurityEvent.classified SecurityEvent.category
    SecurityEvent.target AuditLine.toEvent
  cases htime : AuditLine.time? line <;> simp [htime]

theorem unstamped_eventOfLine (limit : Nat) (stamp : Stamp) (line : String) :
    (eventOfLine limit stamp line).map SecurityEvent.unstamped = eventIn limit line := by
  unfold eventIn eventOfLine AuditLine.parse
  split
  . rfl
  . dsimp only
    split
    . simp only [Option.map_some]
      rw [unstamped_classified_toEvent]
    . rfl

theorem eventIn_empty (limit : Nat) : eventIn limit "" = none := by
  unfold eventIn eventOfLine AuditLine.parse
  have hcandidate : AuditLine.isCandidate [] = false := by decide
  simp [hcandidate]

def EventStore.unstamped (store : EventStore) : EventStore :=
  { store with events := store.events.map SecurityEvent.unstamped }

namespace EventStore

theorem contains_unstamped (store : EventStore) (rawLog : String) :
    store.unstamped.contains rawLog = store.contains rawLog := by
  simp [contains, unstamped, SecurityEvent.unstamped, Function.comp_def]

theorem append_unstamped (store : EventStore) (event : SecurityEvent) :
    (store.append event).unstamped = store.unstamped.append event.unstamped := by
  have hfull : store.unstamped.isFull = store.isFull := by
    unfold isFull size unstamped
    rw [List.length_map]
  unfold append
  rw [hfull]
  split <;> simp [unstamped]

theorem appendIfAbsent_unstamped (store : EventStore) (event : SecurityEvent)
    : store.unstamped.appendIfAbsent event.unstamped
        =
      ((store.appendIfAbsent event).1, (store.appendIfAbsent event).2.unstamped) := by
  unfold appendIfAbsent
  have hraw : event.unstamped.rawLog = event.rawLog := rfl
  rw [hraw, contains_unstamped]
  split
  . rfl
  . rw [append_unstamped]

end EventStore

/-! ### Lines one at a time -/

namespace StoreRun

def unstamped (run : StoreRun) : StoreRun where
  store := run.store.unstamped
  accepted := run.accepted.map SecurityEvent.unstamped

/--
Read lines one at a time, each with a new stamp, and store the classified event of each that holds one,
unless its line is held.
-/
def takeLines (limit : Nat) (stamps : StampSupply) (run : StoreRun) : List String → StoreRun
  | [] => run
  | line :: rest =>
    match eventOfLine limit stamps.next line with
    | some event => takeLines limit (stamps.skip 1) (run.serve (.appendIfAbsent event)) rest
    | none => takeLines limit (stamps.skip 1) run rest

def takeEvents (limit : Nat) (run : StoreRun) (lines : List String) : StoreRun :=
  run.serveAll ((lines.filterMap (eventIn limit)).map .appendIfAbsent)

theorem serve_unstamped (run : StoreRun) (event : SecurityEvent)
    : (run.serve (.appendIfAbsent event)).unstamped
        =
      run.unstamped.serve (.appendIfAbsent event.unstamped) := by
  have hstore := run.store.appendIfAbsent_unstamped event
  rw [serve_appendIfAbsent, serve_appendIfAbsent]
  unfold unstamped
  rw [hstore]
  cases (run.store.appendIfAbsent event).1 <;> simp

theorem takeLines_unstamped (limit : Nat) (stamps : StampSupply) (run : StoreRun)
    (lines : List String)
    : (run.takeLines limit stamps lines).unstamped = run.unstamped.takeEvents limit lines := by
  induction lines generalizing run stamps with
  | nil => rfl
  | cons line rest ih =>
    have hevent := unstamped_eventOfLine limit stamps.next line
    unfold takeLines
    cases hline : eventOfLine limit stamps.next line with
    | none =>
      rw [hline, Option.map_none] at hevent
      simp [ih, takeEvents, ← hevent]
    | some event =>
      rw [hline, Option.map_some] at hevent
      simp [ih, takeEvents, ← hevent, serve_unstamped, serveAll]

theorem takeEvents_append (limit : Nat) (run : StoreRun) (lines more : List String)
    : run.takeEvents limit (lines ++ more) = (run.takeEvents limit lines).takeEvents limit more := by
  simp [takeEvents, serveAll]

theorem takeEvents_filter_ne_empty (limit : Nat) (run : StoreRun) (lines : List String)
    : run.takeEvents limit (lines.filter (· ≠ "")) = run.takeEvents limit lines := by
  unfold takeEvents
  rw [List.filterMap_filter]
  congr 3
  funext line
  by_cases hempty : line = "" <;> simp [hempty, eventIn_empty]

theorem start_unstamped (capacity : Nat) : (start capacity).unstamped = start capacity := rfl

/-! ### Ticks -/

def afterEvents (earlier : List SecurityEvent) (run : StoreRun) : StoreRun :=
  { run with accepted := earlier ++ run.accepted }

theorem serve_afterEvents (earlier : List SecurityEvent) (run : StoreRun) (call : StoreCall)
    : (run.afterEvents earlier).serve call = (run.serve call).afterEvents earlier := by
  cases call with
  | append event => simp [serve, afterEvents]
  | appendIfAbsent event =>
    rw [serve_appendIfAbsent, serve_appendIfAbsent]
    simp only [afterEvents]
    split
    . next hnew => simp [hnew]
    . next hheld => simp [hheld]

theorem takeLines_afterEvents (limit : Nat) (stamps : StampSupply) (earlier : List SecurityEvent)
    (run : StoreRun) (lines : List String)
    : (run.afterEvents earlier).takeLines limit stamps lines
        =
      (run.takeLines limit stamps lines).afterEvents earlier := by
  induction lines generalizing run stamps with
  | nil => rfl
  | cons line rest ih =>
    unfold takeLines
    split
    . rw [serve_afterEvents, ih]
    . rw [ih]

end StoreRun

namespace Ingesting

def toRun (s : Ingesting) : StoreRun where
  store := s.store
  accepted := s.announced.reverse

theorem offer_toRun (s : Ingesting) (event : SecurityEvent) :
    (s.offer event).toRun = s.toRun.serve (.appendIfAbsent event) := by
  unfold offer StoreRun.serve toRun
  dsimp only
  split <;> simp_all

theorem takeLines_toRun (limit : Nat) (stamps : StampSupply) (s : Ingesting) (lines : List String)
    : (takeLines limit stamps s lines).toRun = s.toRun.takeLines limit stamps lines := by
  induction lines generalizing s stamps with
  | nil => rfl
  | cons line rest ih =>
    unfold takeLines StoreRun.takeLines
    rw [ih]
    split <;> simp_all [offer_toRun]

end Ingesting

namespace Ingestion

variable {ingestion : Ingestion} {host : Host} {source : LogSource}

theorem tick_of_ok {lines : List String} (hpoll : ingestion.source.poll host = (.ok lines, source))
    (store : EventStore) (stamps : StampSupply) (earlier : List SecurityEvent)
    : let tick := ingestion.tick host store stamps
      tick.ingestion.source = source
        ∧
      tick.ingestion.lineLimit = ingestion.lineLimit
        ∧
      { store := tick.store, accepted := earlier ++ tick.announced : StoreRun }
          =
        { store, accepted := earlier : StoreRun }.takeLines ingestion.lineLimit stamps lines := by
  have hlines := Ingesting.takeLines_toRun ingestion.lineLimit stamps
    { store, report := { linesRead := lines.length } } lines
  have hearlier := StoreRun.takeLines_afterEvents ingestion.lineLimit stamps earlier { store } lines
  unfold tick
  rw [hpoll]
  refine ⟨rfl, rfl, ?_⟩
  simp only [StoreRun.afterEvents, List.append_nil] at hearlier
  rw [hearlier]
  have hstart : Ingesting.toRun { store, report := { linesRead := lines.length } } = { store } := rfl
  rw [← hstart, ← hlines]
  rfl

theorem tick_of_error {error : IngestError}
    (hpoll : ingestion.source.poll host = (.error error, source)) (store : EventStore)
    (stamps : StampSupply)
    : let tick := ingestion.tick host store stamps
      tick.ingestion.source = source
        ∧
      tick.ingestion.lineLimit = ingestion.lineLimit
        ∧
      tick.store = store
        ∧
      tick.announced = [] := by
  unfold tick
  rw [hpoll]
  exact ⟨rfl, rfl, rfl, rfl⟩

end Ingestion

end WafWatch
