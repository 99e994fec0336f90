import WafWatch.Store.Basic

/-!
This module contains the reading of a store as a window on its history. The history is the list of all
events that were ever accepted; the store holds the last ones of it, and its counters tell how long it is.
-/

namespace WafWatch

inductive StoreCall where
  | append (event : SecurityEvent)
  | appendIfAbsent (event : SecurityEvent)
  deriving DecidableEq, Repr, Inhabited

/--
A store with the events that it has accepted so far.
-/
structure StoreRun where
  store : EventStore
  accepted : List SecurityEvent := []
  deriving DecidableEq, Repr, Inhabited

namespace StoreRun

def start (capacity : Nat) : StoreRun where
  store := .empty capacity

def serve (run : StoreRun) : StoreCall → StoreRun
  | .append event =>
    { store := run.store.append event, accepted := run.accepted ++ [event] }
  | .appendIfAbsent event =>
    match run.store.appendIfAbsent event with
    | (true, store) => { store, accepted := run.accepted ++ [event] }
    | (false, store) => { run with store }

def serveAll (run : StoreRun) (calls : List StoreCall) : StoreRun :=
  calls.foldl serve run

end StoreRun

namespace EventStore

def serve (store : EventStore) : StoreCall → EventStore
  | .append event => store.append event
  | .appendIfAbsent event => (store.appendIfAbsent event).2

/--
The store of a capacity that has accepted the events of a history.
-/
def ofHistory (capacity : Nat) (history : List SecurityEvent) : EventStore where
  capacity
  events := history.drop (history.length - capacity)
  appended := history.length
  evicted := history.length - capacity

theorem ofHistory_size (capacity : Nat) (history : List SecurityEvent) :
    (ofHistory capacity history).size = min history.length capacity := by
  simp only [size, ofHistory, List.length_drop]
  omega

theorem ofHistory_isFull (capacity : Nat) (history : List SecurityEvent) :
    (ofHistory capacity history).isFull = decide (capacity ≤ history.length) := by
  unfold isFull
  rw [ofHistory_size, decide_eq_decide]
  simp only [ofHistory]
  omega

theorem empty_eq_ofHistory (capacity : Nat) :
    empty capacity = ofHistory (max capacity 1) [] := by
  simp [empty, ofHistory]

theorem append_ofHistory {capacity : Nat} (hcapacity : 0 < capacity) (history : List SecurityEvent)
    (event : SecurityEvent)
    : (ofHistory capacity history).append event = ofHistory capacity (history ++ [event]) := by
  unfold append
  rw [ofHistory_isFull]
  split
  . next hfull =>
    have hfull : capacity ≤ history.length := by simpa using hfull
    -- the oldest event that is held is the one that leaves the window
    have hdrop : history.length + 1 - capacity = history.length - capacity + 1 := by omega
    simp only [ofHistory, List.length_append, List.length_singleton, hdrop, List.drop_drop]
    rw [List.drop_append_of_le_length (by omega)]
  . next hroom =>
    have hroom : history.length < capacity := by simpa using hroom
    have hnone : history.length - capacity = 0 := by omega
    have hnone' : history.length + 1 - capacity = 0 := by omega
    simp [ofHistory, hnone, hnone']

theorem contains_iff {store : EventStore} {rawLog : String} :
    store.contains rawLog = true ↔ ∃ event ∈ store.events, event.rawLog = rawLog := by
  simp [contains]

theorem appendIfAbsent_eq_false_iff {store : EventStore} {event : SecurityEvent} :
    (store.appendIfAbsent event).1 = false ↔ ∃ held ∈ store.events, held.rawLog = event.rawLog := by
  rw [← contains_iff]
  unfold appendIfAbsent
  split
  . next hheld => simp [hheld]
  . next hheld => simp [hheld]

theorem appendIfAbsent_of_false {store : EventStore} {event : SecurityEvent}
    (hrejected : (store.appendIfAbsent event).1 = false)
    : (store.appendIfAbsent event).2 = store := by
  rw [appendIfAbsent_eq_false_iff, ← contains_iff] at hrejected
  simp [appendIfAbsent, hrejected]

theorem appendIfAbsent_of_true {store : EventStore} {event : SecurityEvent}
    (haccepted : (store.appendIfAbsent event).1 = true)
    : (store.appendIfAbsent event).2 = store.append event := by
  unfold appendIfAbsent at *
  split at haccepted
  . contradiction
  . next hnew => rw [if_neg hnew]

theorem appendIfAbsent_cases (store : EventStore) (event : SecurityEvent)
    : store.appendIfAbsent event = (false, store) ∨ store.appendIfAbsent event = (true, store.append event) := by
  unfold appendIfAbsent
  split
  . exact .inl rfl
  . exact .inr rfl

theorem capacity_append (store : EventStore) (event : SecurityEvent) :
    (store.append event).capacity = store.capacity := by
  unfold append
  split <;> rfl

end EventStore

namespace StoreRun

def Faithful (capacity : Nat) (run : StoreRun) : Prop :=
  run.store = .ofHistory capacity run.accepted

theorem serve_appendIfAbsent (run : StoreRun) (event : SecurityEvent)
    : run.serve (.appendIfAbsent event)
        =
      { store := (run.store.appendIfAbsent event).2
        accepted :=
          if (run.store.appendIfAbsent event).1 then run.accepted ++ [event] else run.accepted } := by
  rw [serve]
  split
  . next store hanswer => simp [hanswer]
  . next store hanswer => simp [hanswer]

theorem Faithful.serve {capacity : Nat} {run : StoreRun} (hcapacity : 0 < capacity)
    (h : run.Faithful capacity) (call : StoreCall)
    : (run.serve call).Faithful capacity := by
  unfold Faithful at h ⊢
  cases call with
  | append event =>
    simp only [StoreRun.serve]
    rw [h, EventStore.append_ofHistory hcapacity]
  | appendIfAbsent event =>
    rw [serve_appendIfAbsent]
    unfold EventStore.appendIfAbsent
    split
    . simpa using h
    . simp only [ite_true]
      rw [h, EventStore.append_ofHistory hcapacity]

theorem Faithful.serveAll {capacity : Nat} {run : StoreRun} (hcapacity : 0 < capacity)
    (h : run.Faithful capacity) (calls : List StoreCall)
    : (run.serveAll calls).Faithful capacity := by
  unfold StoreRun.serveAll
  induction calls generalizing run with
  | nil => exact h
  | cons call calls ih => exact ih (h.serve hcapacity call)

theorem start_serveAll_faithful (capacity : Nat) (calls : List StoreCall)
    : ((start capacity).serveAll calls).Faithful (max capacity 1) := by
  apply Faithful.serveAll
  . omega
  . apply EventStore.empty_eq_ofHistory

/--
A new store of a capacity holds the last events of all that it has accepted, and its counters tell how
many those were and how many are gone; an event is refused exactly if one with its raw line is held.
-/
theorem start_serveAll_holds_last (capacity : Nat) (calls : List StoreCall)
    : let run := (start capacity).serveAll calls
      run.store.events = run.accepted.drop (run.accepted.length - max capacity 1)
        ∧
      run.store.size = min run.accepted.length (max capacity 1)
        ∧
      run.store.appended = run.accepted.length
        ∧
      run.store.evicted = run.accepted.length - run.store.size
        ∧
      (∀ rawLog, run.store.contains rawLog = true ↔
        ∃ event ∈ run.store.events, event.rawLog = rawLog)
        ∧
      (∀ event, (run.store.appendIfAbsent event).1 = false ↔
        ∃ held ∈ run.store.events, held.rawLog = event.rawLog)
        ∧
      (∀ event, (run.store.appendIfAbsent event).1 = false →
        (run.store.appendIfAbsent event).2 = run.store) := by
  intro run
  have hrun : run.store = .ofHistory (max capacity 1) run.accepted :=
    start_serveAll_faithful capacity calls
  have hsize : run.store.size = min run.accepted.length (max capacity 1) := by
    rw [hrun, EventStore.ofHistory_size]
  refine ⟨?_, hsize, ?_, ?_, ?_, ?_, ?_⟩
  . rw [hrun]
    rfl
  . rw [hrun]
    rfl
  . rw [hsize, hrun]
    simp only [EventStore.ofHistory]
    omega
  . intro rawLog
    apply EventStore.contains_iff
  . intro event
    apply EventStore.appendIfAbsent_eq_false_iff
  . intro event
    apply EventStore.appendIfAbsent_of_false

end StoreRun

end WafWatch
