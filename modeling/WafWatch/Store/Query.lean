import WafWatch.Store.Basic

/-!
This module contains the queries that the outside may put to the store, and the recording of test
events.
-/

namespace WafWatch

namespace EventStore

def defaultLimit : Int := 50

def maxLimit : Int := 500

def clampLimit (limit : Int) : Int :=
  if limit ≤ 0 then defaultLimit else min limit maxLimit

def recentEvents (store : EventStore) (limit : Int) : List SecurityEvent :=
  store.recent (clampLimit limit)

/--
What came of a test event.
-/
structure Recording where
  store : EventStore
  /-- The event if it was stored, which has to be announced. -/
  event : Option SecurityEvent := none
  measurements : List Measurement := []

/--
Store the event of a test event, unless its raw line is held.
-/
def recordTestEvent (store : EventStore) (input : TestEvent) (stamp : Stamp) : Recording :=
  let event := input.toEvent stamp
  match store.appendIfAbsent event with
  | (true, after) =>
    { store := after, event := some event, measurements := store.appendMeasurements }
  | (false, after) => { store := after }

end EventStore

end WafWatch
