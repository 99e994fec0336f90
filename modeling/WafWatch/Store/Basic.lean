import WafWatch.Event.Basic
import WafWatch.Metrics.Basic

/-!
This module contains the store of recent events. It holds at most as many events as its capacity says;
when it is full, the oldest event makes room for a new one.
-/

namespace WafWatch

/--
The events that are held, the oldest first, with the numbers of events that were ever appended and
evicted.
-/
structure EventStore where
  capacity : Nat
  events : List SecurityEvent := []
  appended : Nat := 0
  evicted : Nat := 0
  deriving DecidableEq, Repr, Inhabited

namespace EventStore

def defaultCapacity : Nat := 1000

/--
A store without events that has room for at least one.
-/
def empty (capacity : Nat) : EventStore where
  capacity := max capacity 1

def size (store : EventStore) : Nat :=
  store.events.length

def isFull (store : EventStore) : Bool :=
  store.capacity ≤ store.size

/--
Append an event, at the cost of the oldest one if the store is full.
-/
def append (store : EventStore) (event : SecurityEvent) : EventStore :=
  if store.isFull then
    { store with
      events := store.events.drop 1 ++ [event]
      appended := store.appended + 1
      evicted := store.evicted + 1 }
  else
    { store with
      events := store.events ++ [event]
      appended := store.appended + 1 }

def appendMeasurements (store : EventStore) : List Measurement :=
  (if store.isFull then [.add ⟨.eventsEvicted, none⟩ 1] else []) ++
    [.set ⟨.storeSize, none⟩ (if store.isFull then store.size else store.size + 1)]

def contains (store : EventStore) (rawLog : String) : Bool :=
  store.events.any (·.rawLog == rawLog)

/--
Append an event unless one with the same raw line is held, and say whether it was appended.
-/
def appendIfAbsent (store : EventStore) (event : SecurityEvent) : Bool × EventStore :=
  if store.contains event.rawLog then (false, store) else (true, store.append event)

/--
The number of events that a limit asks for: all of them unless the limit is positive and smaller.
-/
def recentCount (store : EventStore) (limit : Int) : Nat :=
  if 0 < limit && limit < store.size then limit.toNat else store.size

/--
The events appended last, as many as the limit asks for, the latest first; of events of one time the
one appended last comes first.
-/
def recent (store : EventStore) (limit : Int) : List SecurityEvent :=
  (store.events.reverse.take (store.recentCount limit)).mergeSort fun a b =>
    b.timestamp.le a.timestamp

end EventStore

end WafWatch
