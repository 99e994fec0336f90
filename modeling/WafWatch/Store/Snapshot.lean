import WafWatch.Store.Basic

/-!
This module contains the counting of the stored events: how many there are, how many were blocked, how
many of each attack type, and how many each client sent.
-/

namespace WafWatch

namespace Snapshot

def topIpsLimit : Nat := 10

def recentLogsLimit : Int := 10

/--
Count one more of a name, in ascending order of names.
-/
def bump (name : String) : List (String × Nat) → List (String × Nat)
  | [] => [(name, 1)]
  | (other, n) :: rest =>
    if name == other then (other, n + 1) :: rest
    else if name < other then (name, 1) :: (other, n) :: rest
    else (other, n) :: bump name rest

def attackTypes (events : List SecurityEvent) : List String :=
  (events.filter fun event => event.blocked && !event.attackType.isEmpty).map (·.attackType)

def countAttacks (events : List SecurityEvent) : List (String × Nat) :=
  (attackTypes events).foldl (fun counts name => bump name counts) []

def countRequest (counts : List ClientCount) (event : SecurityEvent) : List ClientCount :=
  match counts with
  | [] => [⟨event.clientIp, 1, if event.blocked then 1 else 0⟩]
  | count :: rest =>
    if count.ip == event.clientIp then
      { count with
        requests := count.requests + 1
        blocked := if event.blocked then count.blocked + 1 else count.blocked } :: rest
    else count :: countRequest rest event

def countClients (events : List SecurityEvent) : List ClientCount :=
  events.foldl countRequest []

/--
One client is listed before another: it sent more requests, or as many and its address comes first.
-/
def listedBefore (a b : ClientCount) : Bool :=
  b.requests < a.requests || (a.requests == b.requests && a.ip ≤ b.ip)

def busiest (events : List SecurityEvent) : List ClientCount :=
  ((countClients events).mergeSort listedBefore).take topIpsLimit

end Snapshot

def EventStore.snapshot (store : EventStore) (now : Time.Timestamp) : Snapshot where
  totalRequests := store.size
  blockedRequests := store.events.countP (·.blocked)
  attacksByType := Snapshot.countAttacks store.events
  topIps := Snapshot.busiest store.events
  recentLogs := store.recent Snapshot.recentLogsLimit
  timestamp := now

end WafWatch
