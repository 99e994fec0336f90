import Mathlib.Data.List.Infix
import Mathlib.Data.List.Nodup
import WafWatch.Proofs.Ingest.Reading
import WafWatch.Store.Query

/-!
This module contains the window of deduplication. Whatever ticks and test events bring, an event is refused
exactly if its raw line is that of one of the events accepted last, as many as the store has room for. So a
raw line comes again only at a distance.
-/

namespace WafWatch

/--
What brings events to a store. A test event may come while a tick goes through its lines, so some lines of a
tick may also come by themselves.
-/
inductive Intake where
  | tick (ingestion : Ingestion) (host : Host) (stamps : StampSupply)
  | part (limit : Nat) (stamps : StampSupply) (lines : List String)
  | test (input : TestEvent) (stamp : Stamp)

def eventsOfLines (limit : Nat) (stamps : StampSupply) : List String → List SecurityEvent
  | [] => []
  | line :: rest =>
    (eventOfLine limit stamps.next line).toList ++ eventsOfLines limit (stamps.skip 1) rest

/--
The events that are offered to the store, in this order.
-/
def Intake.candidates : Intake → List SecurityEvent
  | .tick ingestion host stamps =>
    match (ingestion.source.poll host).1 with
    | .ok lines => eventsOfLines ingestion.lineLimit stamps lines
    | .error _ => []
  | .part limit stamps lines => eventsOfLines limit stamps lines
  | .test input stamp => [input.toEvent stamp]

/--
The last events of some, as many as `reach` says.
-/
def latest (reach : Nat) (events : List SecurityEvent) : List SecurityEvent :=
  events.drop (events.length - reach)

/--
Between two events of one raw line there are as many others as `reach` says.
-/
def Spaced (reach : Nat) (events : List SecurityEvent) : Prop :=
  ∀ window, window <:+: events → window.length ≤ reach + 1 → (window.map (·.rawLog)).Nodup

variable {reach : Nat} {events : List SecurityEvent}

theorem mem_latest_of_suffix {window : List SecurityEvent} (hwindow : window <:+ events)
    (hlength : window.length ≤ reach) {event : SecurityEvent} (hevent : event ∈ window)
    : event ∈ latest reach events := by
  rw [List.suffix_iff_eq_drop.mp hwindow] at hevent
  exact List.drop_subset_drop_left events (by omega) hevent

theorem Spaced.concat (h : Spaced reach events) {event : SecurityEvent}
    (hnew : ∀ recent ∈ latest reach events, recent.rawLog ≠ event.rawLog)
    : Spaced reach (events ++ [event]) := by
  intro window hwindow hlength
  rw [List.infix_concat_iff, List.suffix_concat_iff] at hwindow
  rcases hwindow with (rfl | ⟨earlier, rfl, hearlier⟩) | hold
  . exact List.nodup_nil
  . -- a window that ends with the new event has no more than the latest events before it
    rw [List.length_append, List.length_singleton] at hlength
    have hdistinct := h earlier hearlier.isInfix (by omega)
    rw [List.map_append, List.map_singleton, List.nodup_append]
    refine ⟨hdistinct, List.nodup_singleton _, ?_⟩
    intro rawLog hrawLog rawLog' hrawLog'
    obtain ⟨recent, hrecent, rfl⟩ := List.mem_map.mp hrawLog
    rw [List.mem_singleton.mp hrawLog']
    exact hnew recent (mem_latest_of_suffix hearlier (by omega) hrecent)
  . exact h window hold hlength

theorem Spaced.nodup_latest (h : Spaced reach events) :
    ((latest reach events).map (·.rawLog)).Nodup := by
  apply h
  . exact (List.drop_suffix _ _).isInfix
  . unfold latest
    rw [List.length_drop]
    omega

theorem Spaced.le_length (h : Spaced reach events) {before between after : List SecurityEvent}
    {event again : SecurityEvent} (hevents : events = before ++ event :: between ++ again :: after)
    (hagain : again.rawLog = event.rawLog)
    : reach ≤ between.length := by
  by_contra hnear
  have hwindow : event :: between ++ [again] <:+: events := ⟨before, after, by simp [hevents]⟩
  have hdistinct := h _ hwindow (by simp; omega)
  simp [hagain] at hdistinct

namespace StoreRun

variable {capacity : Nat} {run : StoreRun}

/-! ### Intakes -/

def offerAll (run : StoreRun) (events : List SecurityEvent) : StoreRun :=
  run.serveAll (events.map .appendIfAbsent)

/--
Take in what comes. The events that are accepted are those that are announced.
-/
def takeIn (run : StoreRun) : Intake → StoreRun
  | .tick ingestion host stamps =>
    let tick := ingestion.tick host run.store stamps
    { store := tick.store, accepted := run.accepted ++ tick.announced }
  | .part limit stamps lines =>
    let done := Ingesting.takeLines limit stamps { store := run.store, report := {} } lines
    { store := done.store, accepted := run.accepted ++ done.announced.reverse }
  | .test input stamp =>
    let recording := run.store.recordTestEvent input stamp
    { store := recording.store, accepted := run.accepted ++ recording.event.toList }

def takeInAll (run : StoreRun) (intakes : List Intake) : StoreRun :=
  intakes.foldl takeIn run

theorem offerAll_append (run : StoreRun) (events more : List SecurityEvent) :
    run.offerAll (events ++ more) = (run.offerAll events).offerAll more := by
  simp [offerAll, serveAll]

theorem takeLines_eq_offerAll (limit : Nat) (stamps : StampSupply) (run : StoreRun)
    (lines : List String)
    : run.takeLines limit stamps lines = run.offerAll (eventsOfLines limit stamps lines) := by
  induction lines generalizing run stamps with
  | nil => rfl
  | cons line rest ih =>
    unfold takeLines eventsOfLines
    rw [offerAll_append]
    cases eventOfLine limit stamps.next line with
    | some event => exact ih _ _
    | none => exact ih _ _

theorem takeIn_part (run : StoreRun) (limit : Nat) (stamps : StampSupply) (lines : List String) :
    run.takeIn (.part limit stamps lines) = run.takeLines limit stamps lines := by
  have hlines := Ingesting.takeLines_toRun limit stamps { store := run.store, report := {} } lines
  have hearlier := takeLines_afterEvents limit stamps run.accepted { store := run.store } lines
  simp only [afterEvents, List.append_nil] at hearlier
  rw [hearlier]
  exact congrArg (afterEvents run.accepted) hlines

theorem takeIn_test (run : StoreRun) (input : TestEvent) (stamp : Stamp) :
    run.takeIn (.test input stamp) = run.serve (.appendIfAbsent (input.toEvent stamp)) := by
  unfold takeIn serve EventStore.recordTestEvent
  cases hanswer : run.store.appendIfAbsent (input.toEvent stamp) with
  | mk accepted store => cases accepted <;> simp [hanswer]

/--
What comes is offered to the store event by event.
-/
theorem takeIn_eq_offerAll (run : StoreRun) (intake : Intake) :
    run.takeIn intake = run.offerAll intake.candidates := by
  cases intake with
  | tick ingestion host stamps =>
    simp only [Intake.candidates]
    cases hpoll : ingestion.source.poll host with
    | mk answer source =>
      cases answer with
      | ok lines =>
        have htick := Ingestion.tick_of_ok hpoll run.store stamps run.accepted
        exact htick.2.2.trans (takeLines_eq_offerAll _ _ _ _)
      | error error =>
        have htick := Ingestion.tick_of_error hpoll run.store stamps
        unfold takeIn
        simp only [htick.2.2.1, htick.2.2.2, List.append_nil]
        rfl
  | part limit stamps lines =>
    rw [takeIn_part]
    exact takeLines_eq_offerAll _ _ _ _
  | test input stamp =>
    rw [takeIn_test]
    rfl

theorem takeInAll_eq_offerAll (run : StoreRun) (intakes : List Intake) :
    run.takeInAll intakes = run.offerAll (intakes.flatMap Intake.candidates) := by
  induction intakes generalizing run with
  | nil => rfl
  | cons intake intakes ih =>
    rw [List.flatMap_cons, offerAll_append, ← takeIn_eq_offerAll]
    exact ih _

/-! ### The window -/

theorem Faithful.events_eq (h : run.Faithful capacity) :
    run.store.events = latest capacity run.accepted := by
  rw [h]
  rfl

theorem start_offerAll_faithful (capacity : Nat) (events : List SecurityEvent) :
    ((start capacity).offerAll events).Faithful (max capacity 1) :=
  start_serveAll_faithful capacity _

theorem Faithful.refused_iff (h : run.Faithful capacity) (event : SecurityEvent)
    : (run.store.appendIfAbsent event).1 = false
        ↔
      ∃ recent ∈ latest capacity run.accepted, recent.rawLog = event.rawLog := by
  rw [← h.events_eq]
  exact EventStore.appendIfAbsent_eq_false_iff

theorem Faithful.serve_spaced (h : run.Faithful capacity) (hspaced : Spaced capacity run.accepted)
    (event : SecurityEvent)
    : Spaced capacity (run.serve (.appendIfAbsent event)).accepted := by
  rw [serve_appendIfAbsent]
  dsimp only
  split
  . next haccepted =>
    apply hspaced.concat
    intro recent hrecent hsame
    have hrefused := (h.refused_iff event).mpr ⟨recent, hrecent, hsame⟩
    rw [haccepted] at hrefused
    contradiction
  . exact hspaced

theorem Faithful.offerAll_spaced (hcapacity : 0 < capacity) (h : run.Faithful capacity)
    (hspaced : Spaced capacity run.accepted) (events : List SecurityEvent)
    : Spaced capacity (run.offerAll events).accepted := by
  induction events generalizing run with
  | nil => exact hspaced
  | cons event events ih => exact ih (h.serve hcapacity _) (h.serve_spaced hspaced event)

theorem start_offerAll_spaced (capacity : Nat) (events : List SecurityEvent) :
    Spaced (max capacity 1) ((start capacity).offerAll events).accepted := by
  apply Faithful.offerAll_spaced
  . omega
  . exact start_offerAll_faithful capacity []
  . intro window hwindow hlength
    rw [List.infix_nil.mp hwindow]
    exact List.nodup_nil

/--
A new store that only takes what ticks and test events bring refuses an event exactly if its raw line is that
of one of the latest events. The raw lines that follow each other closely, and all that are held, are distinct,
and a raw line that was accepted is announced again only after as many others as the store has room for.
-/
theorem start_takeInAll_window (capacity : Nat) (intakes : List Intake)
    : let run := (start capacity).takeInAll intakes
      let candidates := intakes.flatMap Intake.candidates
      let reach := max capacity 1
      run = (start capacity).offerAll candidates
        ∧
      (∀ window, window <:+: run.accepted → window.length ≤ reach + 1 →
        (window.map (·.rawLog)).Nodup)
        ∧
      (∀ earlier candidate later, candidates = earlier ++ candidate :: later →
        let before := (start capacity).offerAll earlier
        let verdict := (before.store.appendIfAbsent candidate).1
        (verdict = false ↔ ∃ recent ∈ latest reach before.accepted, recent.rawLog = candidate.rawLog)
          ∧
        (before.offerAll [candidate]).accepted
          = if verdict then before.accepted ++ [candidate] else before.accepted)
        ∧
      (run.store.events.map (·.rawLog)).Nodup
        ∧
      (∀ before event between again after,
        run.accepted = before ++ event :: between ++ again :: after →
          again.rawLog = event.rawLog → reach ≤ between.length) := by
  intro run candidates reach
  have hrun : run = (start capacity).offerAll candidates := takeInAll_eq_offerAll _ _
  have hspaced : Spaced reach run.accepted := by
    rw [hrun]
    exact start_offerAll_spaced capacity candidates
  have hfaithful : run.Faithful reach := by
    rw [hrun]
    exact start_offerAll_faithful capacity candidates
  refine ⟨hrun, hspaced, ?_, ?_, ?_⟩
  . intro earlier candidate later hcandidates before verdict
    have hbefore : before.Faithful reach := start_offerAll_faithful capacity earlier
    refine ⟨hbefore.refused_iff candidate, ?_⟩
    exact congrArg accepted (before.serve_appendIfAbsent candidate)
  . rw [hfaithful.events_eq]
    exact hspaced.nodup_latest
  . intro before event between again after haccepted hagain
    exact hspaced.le_length haccepted hagain

/-- The distance is no longer than it has to be: one other line is enough for a store of one event. -/
theorem start_takeInAll_window_sharp
    : let run := (start 1).takeInAll
        [.test { TestEvent.blank with rawLog := some "a" } default,
          .test { TestEvent.blank with rawLog := some "b" } default,
          .test { TestEvent.blank with rawLog := some "a" } default]
      run.accepted.map (·.rawLog) = ["a", "b", "a"]
        ∧
      run.store.evicted = 2
        ∧
      (∀ window, window <:+: run.accepted → window.length ≤ 2 → (window.map (·.rawLog)).Nodup) := by
  intro run
  exact ⟨by decide +kernel, by decide +kernel, (start_takeInAll_window 1 _).2.1⟩

end StoreRun

end WafWatch
